import SqlCsvServer.Execution.SameAnswers
import SqlCsvServer.Foundation.Unwinding
import SqlCsvServer.Storage.Headers

/-!
# What a statement touches

A statement works on one table: the one that its schema stores under a name.  It reads
and writes nothing of the other tables, and of its own file it changes nothing that is
there.
-/

namespace SqlCsvServer
namespace Execution

open Foundation Common Storage Index Sql

/-!
## Files that only get longer
-/

def OnlyLonger (old new : Except Errno CsvFile) : Prop :=
  match old with
  | .error errno => new = .error errno
  | .ok file =>
      exists more, new = .ok { file with contents := file.contents ++ more }

theorem onlyLonger_refl (file : Except Errno CsvFile) : OnlyLonger file file := by
  cases file with
  | error errno => exact rfl
  | ok file =>
      refine ⟨[], ?_⟩
      rw [List.append_nil]

theorem OnlyLonger.trans {a b c : Except Errno CsvFile} (hab : OnlyLonger a b)
    (hbc : OnlyLonger b c) : OnlyLonger a c := by
  cases a with
  | error errno =>
      have hb : b = .error errno := hab
      rw [hb] at hbc
      exact hbc
  | ok file =>
      rcases hab with ⟨first, hb⟩
      rw [hb] at hbc
      rcases hbc with ⟨second, hc⟩
      refine ⟨first ++ second, ?_⟩
      rw [hc, List.append_assoc]

/-- Between two states of a data directory bytes were added at the end of files. -/
structure Extended (old new : DataDir) : Prop where
  path : new.path = old.path
  files : forall name, OnlyLonger (old.files name) (new.files name)

theorem extended_refl (dataDir : DataDir) : Extended dataDir dataDir where
  path := rfl
  files := fun _ => onlyLonger_refl _

theorem Extended.trans {a b c : DataDir} (hab : Extended a b) (hbc : Extended b c) :
    Extended a c where
  path := hbc.path.trans hab.path
  files := fun name => (hab.files name).trans (hbc.files name)

theorem appendRowCsv_extended (dataDir : DataDir) (name : Bytes)
    (rowValues : List Bytes) (append : Option AppendFault) :
    Extended dataDir (appendRowCsv dataDir name rowValues append).1 := by
  rcases appendRowCsv_other dataDir name rowValues append with ⟨hpath, hothers⟩
  refine ⟨hpath, fun other => ?_⟩
  by_cases hother : other = name
  · subst hother
    unfold appendRowCsv openTableFileForUpdate
    cases hfile : dataDir.files other with
    | error errno =>
        show dataDir.files other = _
        exact hfile
    | ok file =>
        cases herror : file.updateError with
        | some errno =>
            simp only [herror, hfile]
            exact onlyLonger_refl _
        | none =>
            rcases appendRow_prefix file.contents rowValues append with
              ⟨_, gained, _, hcontents⟩
            simp only [herror, hcontents, DataDir.write, if_true, hfile]
            exact ⟨gained, by rw [herror]⟩
  · rw [hothers other hother]
    exact onlyLonger_refl _

/-!
## The table of a statement
-/

def namedTable : Statement -> Bytes
  | .insertStatement statement => statement.tableName
  | .selectStatement statement => statement.tableName

/-- The statement is about the table that is stored under a name. -/
def isAbout (schemaDir : SchemaDir) (name : Bytes) (statement : Statement) : Bool :=
  match readSchema schemaDir (namedTable statement) with
  | .error _ => false
  | .ok schema => schema.storageName = name

theorem isAbout_iff {schemaDir : SchemaDir} {name : Bytes} {statement : Statement} :
    isAbout schemaDir name statement = true <->
      exists schema, readSchema schemaDir (namedTable statement) = .ok schema ∧
        schema.storageName = name := by
  unfold isAbout
  cases readSchema schemaDir (namedTable statement) with
  | error text => simp
  | ok schema => simp

theorem storageName_of_read {schemaDir : SchemaDir} {tableName : Bytes} {schema : Schema}
    (h : readSchema schemaDir tableName = .ok schema) :
    forall found, readSchema schemaDir tableName = .ok found ->
      found.storageName = schema.storageName := by
  intro found hfound
  rw [h] at hfound
  cases hfound
  rfl

theorem loadSchema_congr {schemaDir : SchemaDir} {tableName name : Bytes} {a b : DataDir}
    (hname : forall schema, readSchema schemaDir tableName = .ok schema ->
      schema.storageName = name)
    (hpath : a.path = b.path) (hfile : a.files name = b.files name) :
    loadSchema schemaDir a tableName = loadSchema schemaDir b tableName := by
  unfold loadSchema
  cases hread : readSchema schemaDir tableName with
  | error text => rfl
  | ok schema =>
      simp only [validateCsvHeader, hname schema hread, hpath, hfile]

/-!
## Other tables
-/

structure KeepsOthers (name : Bytes) (before after : EngineState) : Prop where
  extended : Extended before.dataDir after.dataDir
  files : forall other, other ≠ name ->
    after.dataDir.files other = before.dataDir.files other
  hook : before.index.forceNextRegisterFailure = false ->
    after.index.forceNextRegisterFailure = false
  views : forall other, other ≠ name ->
    tableView after.dataDir after.index.registry other =
      tableView before.dataDir before.index.registry other

theorem SameAnswers.keepsOthers {before after : EngineState}
    (h : SameAnswers after before) (name : Bytes) : KeepsOthers name before after where
  extended := h.dataDir ▸ extended_refl _
  files := fun _ _ => by rw [h.dataDir]
  hook := fun hhook => h.hook.trans hhook
  views := fun other _ => h.views other

theorem KeepsOthers.trans {name : Bytes} {r s t : EngineState}
    (hrs : KeepsOthers name r s) (hst : KeepsOthers name s t) : KeepsOthers name r t where
  extended := hrs.extended.trans hst.extended
  files := fun other hother => (hst.files other hother).trans (hrs.files other hother)
  hook := fun hhook => hst.hook (hrs.hook hhook)
  views := fun other hother => (hst.views other hother).trans (hrs.views other hother)

theorem keepsOthers_append (state : EngineState) (name : Bytes)
    (rowValues : List Bytes) (append : Option AppendFault) :
    KeepsOthers name state
      { state with dataDir := (appendRowCsv state.dataDir name rowValues append).1 } := by
  rcases appendRowCsv_other state.dataDir name rowValues append with ⟨hpath, hothers⟩
  exact
    { extended := appendRowCsv_extended _ _ _ _
      files := hothers
      hook := id
      views := fun other hother => tableView_congr hpath (hothers other hother) _ }

theorem keepsOthers_register {state : EngineState} {schema : Schema}
    {rowId rowOffset : Int} {available left : Option Nat} {index : IndexState}
    {result : Option Bytes}
    (h : tableIndexRegisterRow state.dataDir schema rowId rowOffset state.index available =
      (index, result, left)) :
    KeepsOthers schema.storageName state { state with index := index } := by
  unfold tableIndexRegisterRow at h
  split at h
  · cases h
    exact
      { extended := extended_refl _
        files := fun _ _ => rfl
        hook := fun _ => rfl
        views := fun _ _ => rfl }
  · rcases hload : ensureLoaded state.dataDir schema state.index.registry available with
      ⟨registry, found, memory⟩
    have hview := ensureLoaded_view hload
    rw [hload] at h
    cases found with
    | error error =>
        cases h
        exact
          { extended := extended_refl _
            files := fun _ _ => rfl
            hook := id
            views := fun other _ => hview.1 other }
    | ok found =>
        rcases found with ⟨slot, entry⟩
        rcases hview.2 slot entry rfl with ⟨hfound, _, _⟩
        have hname := (@registerInEntry_tableName memory entry rowId rowOffset).trans
          (findTableIndex_tableName hfound)
        rcases hregister : registerInEntry entry rowId rowOffset memory with
          ⟨written, error, more⟩
        rw [hregister] at hname
        simp only [hregister] at h
        cases h
        refine
          { extended := extended_refl _
            files := fun _ _ => rfl
            hook := id
            views := fun other hother => ?_ }
        simp only
        rw [tableView_writeEntry hfound hname, if_neg hother]
        exact hview.1 other

theorem keepsOthers_invalidate (state : EngineState) (name : Bytes) :
    KeepsOthers name state
      { state with index := tableIndexInvalidate state.index name } where
  extended := extended_refl _
  files := fun _ _ => rfl
  hook := fun hhook => (tableIndexInvalidate_hook state.index name).trans hhook
  views := fun other hother => by
    simp only
    rw [tableIndexInvalidate_view, if_neg hother]

theorem keepsOthers_appendAndRegister (state : EngineState) (schema : Schema)
    (nextId : Int) (rowValues : List Bytes) (append : Option AppendFault)
    (available : Option Nat) :
    KeepsOthers schema.storageName state
      (appendAndRegister schema nextId rowValues append state available).1 := by
  have happended := keepsOthers_append state schema.storageName rowValues append
  unfold appendAndRegister
  rcases happend : appendRowCsv state.dataDir schema.storageName rowValues append with
    ⟨dataDir, storageResult⟩
  rw [happend] at happended
  simp only
  split
  · rcases hregister : tableIndexRegisterRow dataDir schema nextId
        storageResult.rowOffset state.index available with ⟨index, result, left⟩
    have hregistered := happended.trans
      (@keepsOthers_register { state with dataDir := dataDir } _ _ _ _ _ _ _ hregister)
    cases result with
    | none => exact hregistered
    | some text =>
        exact hregistered.trans
          (keepsOthers_invalidate { dataDir := dataDir, index := index } _)
  · exact happended

theorem executeInsert_keepsOthers {schemaDir : SchemaDir} {statement : InsertStatement}
    {faults : Faults} {state : EngineState} {name : Bytes}
    (hname : forall schema, readSchema schemaDir statement.tableName = .ok schema ->
      schema.storageName = name) :
    KeepsOthers name state (executeInsert schemaDir statement faults state).1 := by
  have hsame := (sameAnswers_refl state).keepsOthers name
  unfold executeInsert
  cases hschema : loadSchema schemaDir state.dataDir statement.tableName with
  | error text => exact hsame
  | ok schema =>
      have hstorage := hname schema (loadSchema_eq_ok_iff.mp hschema).1
      simp only
      cases validateInsertColumns statement schema with
      | some text => exact hsame
      | none =>
          simp only
          rcases hnext : tableIndexGetNextId state.dataDir schema state.index
              faults.memory with ⟨index, text | nextId, available⟩
          · exact (sameAnswers_getNextId hnext).keepsOthers name
          · have hloaded := (sameAnswers_getNextId hnext).keepsOthers name
            simp only
            cases buildInsertRow statement schema with
            | error text => exact hloaded
            | ok rowValues =>
                rw [← hstorage] at hloaded ⊢
                exact hloaded.trans (keepsOthers_appendAndRegister _ _ _ _ _ _)

theorem executeStatement_keepsOthers {schemaDir : SchemaDir} {statement : Statement}
    {faults : Faults} {state : EngineState} {name : Bytes}
    (hname : forall schema, readSchema schemaDir (namedTable statement) = .ok schema ->
      schema.storageName = name) :
    KeepsOthers name state (executeStatement schemaDir statement faults state).1 := by
  cases statement with
  | insertStatement statement => exact executeInsert_keepsOthers hname
  | selectStatement statement =>
      exact (selectTable_sameAnswers schemaDir statement faults.memory
        state).keepsOthers name

theorem executeStatement_files {schemaDir : SchemaDir} {statement : Statement}
    {faults : Faults} {state : EngineState} :
    Extended state.dataDir
        (executeStatement schemaDir statement faults state).1.dataDir ∧
      forall name,
        (executeStatement schemaDir statement faults state).1.dataDir.files name ≠
            state.dataDir.files name ->
          exists insert schema, statement = .insertStatement insert ∧
            readSchema schemaDir insert.tableName = .ok schema ∧
              schema.storageName = name := by
  cases statement with
  | selectStatement statement =>
      have hsame := (selectTable_sameAnswers schemaDir statement faults.memory state).dataDir
      constructor
      · show Extended state.dataDir (selectTable schemaDir statement _ state).1.dataDir
        rw [hsame]
        exact extended_refl _
      · intro name hchanged
        exact absurd (congrFun (congrArg DataDir.files hsame) name) hchanged
  | insertStatement statement =>
      show Extended state.dataDir (executeInsert schemaDir statement faults state).1.dataDir ∧
        forall name,
          (executeInsert schemaDir statement faults state).1.dataDir.files name ≠ _ -> _
      cases hread : readSchema schemaDir statement.tableName with
      | error text =>
          have hsame : (executeInsert schemaDir statement faults state).1 = state := by
            simp only [executeInsert, loadSchema, hread]
          rw [hsame]
          exact ⟨extended_refl _, fun name hchanged => absurd rfl hchanged⟩
      | ok schema =>
          have hkeeps : KeepsOthers schema.storageName state
              (executeInsert schemaDir statement faults state).1 :=
            executeInsert_keepsOthers (storageName_of_read hread)
          refine ⟨hkeeps.extended, fun name hchanged => ⟨statement, schema, rfl, hread, ?_⟩⟩
          by_contra hother
          exact hchanged (hkeeps.files name fun hname => hother hname.symm)

/-!
## States that agree on one table
-/

/-- The file of the table is the same, and the index answers the same for it. -/
structure SameTable (name : Bytes) (s t : EngineState) : Prop where
  path : s.dataDir.path = t.dataDir.path
  file : s.dataDir.files name = t.dataDir.files name
  left : s.index.forceNextRegisterFailure = false
  right : t.index.forceNextRegisterFailure = false
  view : tableView s.dataDir s.index.registry name =
    tableView t.dataDir t.index.registry name

theorem sameTable_refl {state : EngineState} (name : Bytes)
    (h : state.index.forceNextRegisterFailure = false) : SameTable name state state where
  path := rfl
  file := rfl
  left := h
  right := h
  view := rfl

theorem SameTable.symm {name : Bytes} {s t : EngineState} (h : SameTable name s t) :
    SameTable name t s where
  path := h.path.symm
  file := h.file.symm
  left := h.right
  right := h.left
  view := h.view.symm

section SameTable

variable {s t : EngineState} {schema : Schema}

theorem SameTable.other {name other : Bytes} {after : EngineState}
    (h : SameTable name s t) (hother : name ≠ other) (hkeeps : KeepsOthers other s after) :
    SameTable name after t where
  path := hkeeps.extended.path.trans h.path
  file := (hkeeps.files name hother).trans h.file
  left := hkeeps.hook h.left
  right := h.right
  view := (hkeeps.views name hother).trans h.view

theorem SameTable.left_answers {name : Bytes} {after : EngineState}
    (h : SameTable name s t) (hafter : SameAnswers after s) : SameTable name after t where
  path := (congrArg DataDir.path hafter.dataDir).trans h.path
  file := (congrFun (congrArg DataDir.files hafter.dataDir) name).trans h.file
  left := hafter.hook.trans h.left
  right := h.right
  view := (hafter.views name).trans h.view

theorem SameTable.answers {name : Bytes} {afterS afterT : EngineState}
    (h : SameTable name s t) (hs : SameAnswers afterS s) (ht : SameAnswers afterT t) :
    SameTable name afterS afterT :=
  ((h.left_answers hs).symm.left_answers ht).symm

theorem SameTable.append (h : SameTable schema.storageName s t) {slotS slotT : Nat}
    {entryS entryT : TableIndex} (hs : LoadedEntry s schema.storageName slotS entryS)
    (ht : LoadedEntry t schema.storageName slotT entryT) (rowValues : List Bytes)
    (append : Option AppendFault) :
    (appendRowCsv s.dataDir schema.storageName rowValues append).2 =
        (appendRowCsv t.dataDir schema.storageName rowValues append).2 ∧
      SameTable schema.storageName
        { s with
          dataDir := (appendRowCsv s.dataDir schema.storageName rowValues append).1 }
        { t with
          dataDir := (appendRowCsv t.dataDir schema.storageName rowValues append).1 } := by
  have hpathS := (appendRowCsv_other s.dataDir schema.storageName rowValues append).1
  have hpathT := (appendRowCsv_other t.dataDir schema.storageName rowValues append).1
  have hview := h.view
  rw [hs.view, ht.view] at hview
  have hopen : openTableFileForUpdate s.dataDir schema.storageName =
      openTableFileForUpdate t.dataDir schema.storageName := by
    unfold openTableFileForUpdate
    rw [h.path, h.file]
  have hwritten :
      (appendRowCsv s.dataDir schema.storageName rowValues append).1.files
            schema.storageName =
          (appendRowCsv t.dataDir schema.storageName rowValues append).1.files
            schema.storageName ∧
        (appendRowCsv s.dataDir schema.storageName rowValues append).2 =
          (appendRowCsv t.dataDir schema.storageName rowValues append).2 := by
    unfold appendRowCsv
    rw [hopen]
    cases openTableFileForUpdate t.dataDir schema.storageName with
    | error text => exact ⟨h.file, rfl⟩
    | ok contents =>
        refine ⟨?_, rfl⟩
        simp only [DataDir.write, if_true, h.file]
  refine ⟨hwritten.2, hpathS.trans (h.path.trans hpathT.symm), hwritten.1, h.left,
    h.right, ?_⟩
  show tableView _ s.index.registry _ = tableView _ t.index.registry _
  rw [hs.view, ht.view, hview]

theorem SameTable.register (h : SameTable schema.storageName s t) {slotS slotT : Nat}
    {entryS entryT : TableIndex} (hs : LoadedEntry s schema.storageName slotS entryS)
    (ht : LoadedEntry t schema.storageName slotT entryT) (rowId rowOffset : Int)
    {indexS indexT : IndexState} {resultS resultT : Option Bytes}
    {leftS leftT : Option Nat}
    (hregisterS : tableIndexRegisterRow s.dataDir schema rowId rowOffset s.index none =
      (indexS, resultS, leftS))
    (hregisterT : tableIndexRegisterRow t.dataDir schema rowId rowOffset t.index none =
      (indexT, resultT, leftT)) :
    resultS = resultT ∧
      SameTable schema.storageName { s with index := indexS }
        { t with index := indexT } := by
  have hview := h.view
  rw [hs.view, ht.view, Except.ok.injEq, TableView.mk.injEq] at hview
  have hkeptS := (keepsOthers_register hregisterS).hook h.left
  have hkeptT := (keepsOthers_register hregisterT).hook h.right
  rw [tableIndexRegisterRow_of_loaded hs.1 hs.2, h.left] at hregisterS
  rw [tableIndexRegisterRow_of_loaded ht.1 ht.2, h.right] at hregisterT
  simp only [Bool.false_eq_true, if_false, Prod.mk.injEq] at hregisterS hregisterT
  rcases hregisterS with ⟨hindexS, hpairS⟩
  rcases hregisterT with ⟨hindexT, hpairT⟩
  have hresultS := congrArg Prod.fst hpairS
  have hresultT := congrArg Prod.fst hpairT
  have hnameS := (@registerInEntry_tableName none entryS rowId rowOffset).trans
    (findTableIndex_tableName hs.1)
  have hnameT := (@registerInEntry_tableName none entryT rowId rowOffset).trans
    (findTableIndex_tableName ht.1)
  have hsame :
      (registerInEntry entryS rowId rowOffset none).2.1 =
          (registerInEntry entryT rowId rowOffset none).2.1 ∧
        entryView s.dataDir schema.storageName
            (registerInEntry entryS rowId rowOffset none).1 =
          entryView t.dataDir schema.storageName
            (registerInEntry entryT rowId rowOffset none).1 := by
    unfold registerInEntry
    rw [hview.1, hview.2]
    cases herror : (bptreeInsert entryT.tree rowId rowOffset none).error with
    | none => simp [herror, entryView, hs.2, ht.2]
    | some error => simp [herror, entryView, hs.2, ht.2]
  refine ⟨hresultS.symm.trans (hsame.1.trans hresultT), h.path, h.file, hkeptS, hkeptT, ?_⟩
  simp only [← hindexS, ← hindexT]
  rw [tableView_writeEntry hs.1 hnameS, tableView_writeEntry ht.1 hnameT, if_pos rfl,
    if_pos rfl]
  exact hsame.2

theorem SameTable.invalidate {name : Bytes} (h : SameTable name s t) :
    SameTable name { s with index := tableIndexInvalidate s.index name }
      { t with index := tableIndexInvalidate t.index name } where
  path := h.path
  file := h.file
  left := (tableIndexInvalidate_hook s.index name).trans h.left
  right := (tableIndexInvalidate_hook t.index name).trans h.right
  view := by
    simp only
    rw [tableIndexInvalidate_view, tableIndexInvalidate_view, if_pos rfl, if_pos rfl]
    exact rebuiltView_congr h.path h.file

theorem SameTable.appendAndRegister (h : SameTable schema.storageName s t)
    {slotS slotT : Nat} {entryS entryT : TableIndex}
    (hs : LoadedEntry s schema.storageName slotS entryS)
    (ht : LoadedEntry t schema.storageName slotT entryT) (nextId : Int)
    (rowValues : List Bytes) (append : Option AppendFault) :
    (appendAndRegister schema nextId rowValues append s none).2 =
        (appendAndRegister schema nextId rowValues append t none).2 ∧
      SameTable schema.storageName
        (appendAndRegister schema nextId rowValues append s none).1
        (appendAndRegister schema nextId rowValues append t none).1 := by
  rcases h.append hs ht rowValues append with ⟨hresult, hafter⟩
  unfold Execution.appendAndRegister
  rcases happendS : appendRowCsv s.dataDir schema.storageName rowValues append with
    ⟨dirS, storageResult⟩
  rcases happendT : appendRowCsv t.dataDir schema.storageName rowValues append with
    ⟨dirT, resultT⟩
  rw [happendS, happendT] at hresult hafter
  simp only at hresult hafter
  subst hresult
  simp only
  split
  · rcases hregisterS : tableIndexRegisterRow dirS schema nextId
        storageResult.rowOffset s.index none with ⟨indexS, errorS, leftS⟩
    rcases hregisterT : tableIndexRegisterRow dirT schema nextId
        storageResult.rowOffset t.index none with ⟨indexT, errorT, leftT⟩
    rcases hafter.register hs ht nextId storageResult.rowOffset hregisterS hregisterT with
      ⟨herror, hregistered⟩
    subst herror
    cases errorS with
    | none => exact ⟨rfl, hregistered⟩
    | some text => exact ⟨rfl, hregistered.invalidate⟩
  · exact ⟨rfl, hafter⟩

end SameTable

/-!
## Statements about one table
-/

section Own

variable {s t : EngineState} {schemaDir : SchemaDir} {name : Bytes}

theorem executeInsert_sameTable (h : SameTable name s t) {statement : InsertStatement}
    (hname : forall schema, readSchema schemaDir statement.tableName = .ok schema ->
      schema.storageName = name) (append : Option AppendFault) :
    (executeInsert schemaDir statement { memory := none, append := append } s).2 =
        (executeInsert schemaDir statement { memory := none, append := append } t).2 ∧
      assignedId schemaDir statement { memory := none, append := append } s =
        assignedId schemaDir statement { memory := none, append := append } t ∧
      SameTable name
        (executeInsert schemaDir statement { memory := none, append := append } s).1
        (executeInsert schemaDir statement { memory := none, append := append } t).1 := by
  unfold executeInsert assignedId
  rw [loadSchema_congr hname h.path h.file]
  cases hschema : loadSchema schemaDir t.dataDir statement.tableName with
  | error text => exact ⟨rfl, rfl, h⟩
  | ok schema =>
      have hstorage := hname schema (loadSchema_eq_ok_iff.mp hschema).1
      subst hstorage
      simp only
      rcases hnextS : tableIndexGetNextId s.dataDir schema s.index none with
        ⟨indexS, resultS, leftS⟩
      rcases hnextT : tableIndexGetNextId t.dataDir schema t.index none with
        ⟨indexT, resultT, leftT⟩
      have hresult : resultS = resultT := by
        rw [(tableIndexGetNextId_unlimited hnextS).1,
          (tableIndexGetNextId_unlimited hnextT).1, h.view]
      have hsame := h.answers (sameAnswers_getNextId hnextS) (sameAnswers_getNextId hnextT)
      subst hresult
      cases validateInsertColumns statement schema with
      | some text =>
          refine ⟨rfl, ?_, h⟩
          cases resultS
          all_goals rfl
      | none =>
          cases resultS with
          | error text => exact ⟨rfl, rfl, hsame⟩
          | ok nextId =>
              simp only
              cases buildInsertRow statement schema with
              | error text => exact ⟨rfl, trivial, hsame⟩
              | ok rowValues =>
                  rcases (tableIndexGetNextId_view hnextS).2.2 nextId rfl with
                    ⟨slotS, entryS, hfoundS, hloadedS, _, _⟩
                  rcases (tableIndexGetNextId_view hnextT).2.2 nextId rfl with
                    ⟨slotT, entryT, hfoundT, hloadedT, _, _⟩
                  rw [(tableIndexGetNextId_unlimited hnextS).2 nextId rfl,
                    (tableIndexGetNextId_unlimited hnextT).2 nextId rfl]
                  rcases hsame.appendAndRegister (And.intro hfoundS hloadedS)
                    (And.intro hfoundT hloadedT) nextId rowValues append with
                    ⟨hdone, hafter⟩
                  exact ⟨hdone, trivial, hafter⟩

theorem selectTable_sameTable (h : SameTable name s t) {statement : SelectStatement}
    (hname : forall schema, readSchema schemaDir statement.tableName = .ok schema ->
      schema.storageName = name) :
    (selectTable schemaDir statement none s).2 =
      (selectTable schemaDir statement none t).2 := by
  unfold selectTable
  rw [loadSchema_congr hname h.path h.file]
  cases hschema : loadSchema schemaDir t.dataDir statement.tableName with
  | error text => rfl
  | ok schema =>
      have hstorage := hname schema (loadSchema_eq_ok_iff.mp hschema).1
      subst hstorage
      simp only
      cases buildSelectIndexes statement schema with
      | error text => rfl
      | ok selected =>
          cases selected with
          | nil => rfl
          | cons first more =>
              simp only
              cases resolveWhereIndex statement schema with
              | error text => rfl
              | ok whereIndex =>
                  simp only
                  cases whereIdValue statement with
                  | none =>
                      simp only [scanSelectRows, h.path, h.file]
                  | some whereValue =>
                      simp only
                      unfold indexSelectRows readRowAtOffsetCsv openTableFile
                      cases parseIntStrict whereValue with
                      | none => rfl
                      | some whereId =>
                          simp only
                          rcases hfindS : tableIndexFindRow s.dataDir schema whereId
                              s.index none with ⟨indexS, resultS, leftS⟩
                          rcases hfindT : tableIndexFindRow t.dataDir schema whereId
                              t.index none with ⟨indexT, resultT, leftT⟩
                          have hresult : resultS = resultT := by
                            rw [tableIndexFindRow_of_view hfindS,
                              tableIndexFindRow_of_view hfindT, h.view]
                          subst hresult
                          rw [h.path, h.file]
                          rcases resultS with text | _ | rowOffset
                          all_goals rfl

end Own

/-!
## Runs on many tables
-/

def statementMachine (schemaDir : SchemaDir) :
    Machine EngineState (Statement × Option AppendFault) Outcome where
  act := fun request state =>
    let faults : Faults := { memory := none, append := request.2 }
    let executed := executeStatement schemaDir request.1 faults state
    (executed.1,
      { result := executed.2.1
        output := executed.2.2
        id := statementId schemaDir faults state request.1 })

theorem runStatements_eq (schemaDir : SchemaDir)
    (statements : List (Statement × Option AppendFault)) (state : EngineState) :
    runStatements schemaDir statements state =
      (statementMachine schemaDir).run statements state := by
  induction statements generalizing state with
  | nil => rfl
  | cons request statements ih =>
      simp only [runStatements, Machine.run, ih]
      rfl

theorem statementMachine_unwinds (schemaDir : SchemaDir) (name : Bytes) :
    (statementMachine schemaDir).Unwinds
      (fun request => isAbout schemaDir name request.1) (SameTable name) := by
  constructor
  · rintro ⟨statement, append⟩ s t habout h
    rcases isAbout_iff.mp habout with ⟨schema, hread, hstorage⟩
    have hname := storageName_of_read hread
    rw [hstorage] at hname
    cases statement with
    | insertStatement statement =>
        rcases executeInsert_sameTable h hname append with ⟨hresult, hid, hafter⟩
        refine ⟨?_, hafter⟩
        simp only [statementMachine, executeStatement, statementId, hresult, hid]
    | selectStatement statement =>
        refine ⟨?_, ?_⟩
        · simp only [statementMachine, executeStatement, executeSelect, statementId,
            selectTable_sameTable h hname]
        · exact h.answers (selectTable_sameAnswers schemaDir statement none s)
            (selectTable_sameAnswers schemaDir statement none t)
  · rintro ⟨statement, append⟩ s t habout h
    cases hread : readSchema schemaDir (namedTable statement) with
    | error text =>
        have hsame : (executeStatement schemaDir statement
            { memory := none, append := append } s).1 = s := by
          cases statement with
          | insertStatement statement =>
              have hschema : readSchema schemaDir statement.tableName = .error text := hread
              simp only [executeStatement, executeInsert, loadSchema, hschema]
          | selectStatement statement =>
              have hschema : readSchema schemaDir statement.tableName = .error text := hread
              simp only [executeStatement, executeSelect, selectTable, loadSchema, hschema]
        show SameTable name (executeStatement schemaDir statement
          { memory := none, append := append } s).1 t
        rw [hsame]
        exact h
    | ok schema =>
        have hother : name ≠ schema.storageName := by
          intro hsame
          rw [isAbout_iff.mpr ⟨schema, hread, hsame.symm⟩] at habout
          cases habout
        exact h.other hother (executeStatement_keepsOthers (storageName_of_read hread))

/--
Tables do not interfere: in a run of statements on any tables, with any failing writes, the
statements about one table have the results, the output and the ids that they have when
the others are left out, and leave its file and the answers of its index the same.
-/
theorem tables_do_not_interfere (schemaDir : SchemaDir) (name : Bytes)
    (statements : List (Statement × Option AppendFault)) (state : EngineState)
    (hhook : state.index.forceNextRegisterFailure = false) :
    Machine.seen (fun request => isAbout schemaDir name request.1) statements
          (runStatements schemaDir statements state).2 =
        (runStatements schemaDir
          (statements.filter fun request => isAbout schemaDir name request.1) state).2 ∧
      SameTable name (runStatements schemaDir statements state).1
        (runStatements schemaDir
          (statements.filter fun request => isAbout schemaDir name request.1) state).1 := by
  rw [runStatements_eq, runStatements_eq]
  exact (statementMachine_unwinds schemaDir name).run statements
    (sameTable_refl name hhook)

def sampleRun : List (Statement × Option AppendFault) :=
  [(.insertStatement (sampleInsert (ascii "a")), none),
    (.insertStatement sampleTownInsert, none),
    (.insertStatement (sampleInsert (ascii "b")),
      some { call := .field 0, reached := 0 })]

theorem tables_do_not_interfere_sample :
    Machine.seen (fun request => isAbout sampleTablesDir (ascii "t") request.1) sampleRun
          (runStatements sampleTablesDir sampleRun (startState sampleTablesData)).2 =
        (runStatements sampleTablesDir
          (sampleRun.filter fun request => isAbout sampleTablesDir (ascii "t") request.1)
          (startState sampleTablesData)).2 ∧
      ((runStatements sampleTablesDir sampleRun (startState sampleTablesData)).2.map
        fun outcome => outcome.result.ok) = [true, true, false] :=
  ⟨(tables_do_not_interfere sampleTablesDir (ascii "t") sampleRun
    (startState sampleTablesData) rfl).1, by decide⟩

end Execution
end SqlCsvServer
