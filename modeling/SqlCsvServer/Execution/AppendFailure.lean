import SqlCsvServer.Execution.IndexRun
import SqlCsvServer.Storage.AppendFaults

/-!
# INSERT and failing writes

What an INSERT reports about its row has to be true of the file, and a failure
must not leave a loaded index beside a changed file.  Both hold exactly when the
append writes all of the row or nothing, or the registration of the row fails.
-/

namespace SqlCsvServer
namespace Execution

open Foundation Common Storage Index Sql

/--
A reported success means that the file ends with the row at the offset that was
registered for its id; a reported failure that no file changed below a loaded
index.
-/
def InsertTellsTruth (schemaDir : SchemaDir) (statement : InsertStatement)
    (faults : Faults) (state : EngineState) : Prop :=
  ((executeInsert schemaDir statement faults state).2.ok = true ->
    exists (schema : Schema) (written : Bytes) (entry : TableIndex) (id : Int)
        (rowOffset : Nat),
      loadSchema schemaDir state.dataDir statement.tableName = .ok schema ∧
        assignedId schemaDir statement faults state = some id ∧
        entryOf (executeInsert schemaDir statement faults
            state).1.index.registry schema.storageName = some entry ∧
        bptreeSearch entry.tree id = some (rowOffset : Int) ∧
        (executeInsert schemaDir statement faults state).1.dataDir.contents
            schema.storageName = some written ∧
        written.drop rowOffset = csvRow (expectedRow statement schema)) ∧
    ((executeInsert schemaDir statement faults state).2.ok = false ->
      forall name,
        (executeInsert schemaDir statement faults state).1.dataDir.contents
            name = state.dataDir.contents name ∨
          tableIndexIsLoaded
              (executeInsert schemaDir statement faults state).1.index name =
            false)

def CloseFails : Option AppendFault -> Prop
  | none => False
  | some fault => fault.call = .close

/--
If the INSERT comes to the append of an open file, it writes all or nothing, or
only the close fails and the registration of the row fails too.
-/
def InsertWritesAllOrNothing (schemaDir : SchemaDir)
    (statement : InsertStatement) (faults : Faults) (state : EngineState) :
    Prop :=
  forall schema index id available rowValues contents,
    ReachesAppend schemaDir statement faults state schema index id available
        rowValues ->
      state.dataDir.files schema.storageName =
          .ok { contents := contents, updateError := none } ->
        WritesAllOrNothing contents rowValues faults.append ∨
          CloseFails faults.append ∧
            (tableIndexRegisterRow state.dataDir schema id
              (contents ++ lineSeparator contents).length index
              available).2.1 ≠ none

section Insert

variable {schemaDir : SchemaDir} {statement : InsertStatement}
  {faults : Faults} {state : EngineState}

theorem executeInsert_of_not_reached
    (h : forall schema index id available rowValues,
      ¬ ReachesAppend schemaDir statement faults state schema index id available
        rowValues) :
    (executeInsert schemaDir statement faults state).2.ok = false ∧
      (executeInsert schemaDir statement faults state).1.dataDir =
        state.dataDir := by
  unfold executeInsert
  cases hschema : loadSchema schemaDir state.dataDir statement.tableName with
  | error text => exact ⟨rfl, rfl⟩
  | ok schema =>
      simp only
      cases hvalid : validateInsertColumns statement schema with
      | some text => exact ⟨rfl, rfl⟩
      | none =>
          simp only
          rcases hnext : tableIndexGetNextId state.dataDir schema state.index
              faults.memory with
            ⟨index, text | nextId, available⟩
          · exact ⟨rfl, rfl⟩
          · simp only
            cases hrow : buildInsertRow statement schema with
            | error text => exact ⟨rfl, rfl⟩
            | ok rowValues =>
                exact absurd ⟨hschema, hvalid, hnext, hrow⟩
                  (h schema index nextId available rowValues)

variable {schema : Schema} {index : IndexState} {id : Int}
  {available : Option Nat} {rowValues : List Bytes}

theorem executeInsert_of_reached
    (h : ReachesAppend schemaDir statement faults state schema index id
      available rowValues) :
    executeInsert schemaDir statement faults state =
        appendAndRegister schema id rowValues faults.append
          { state with index := index } available ∧
      assignedId schemaDir statement faults state = some id := by
  unfold executeInsert assignedId
  simp only [h.schema_loaded, h.columns_valid, h.id_found, h.row_built]
  exact ⟨trivial, trivial⟩

theorem readyToAppend_of_reached (hnul : statement.ValuesNulFree)
    (hcurrent : RegistryHolds (EntryCurrent state.dataDir) state.index.registry)
    (h : ReachesAppend schemaDir statement faults state schema index id
      available rowValues) :
    rowValues = expectedRow statement schema ∧
      exists file slot entry,
        ReadyToAppend { state with index := index } schema id rowValues file
            slot entry ∧
          EntryOrdered entry := by
  have hrow := buildInsertRow_eq_expectedRow h.row_built
  subst hrow
  rcases loadSchema_eq_ok_iff.mp h.schema_loaded with ⟨hread, hheader⟩
  rcases contents_of_validateCsvHeader hheader with ⟨file, hfile, hne, _⟩
  rcases tableIndexGetNextId_cases (entryCurrent_invariant state.dataDir)
      hcurrent h.id_found with
    ⟨hindex, _, hid⟩
  rcases hid id rfl with ⟨slot, entry, hfound, hloaded, heq⟩
  have hordered : EntryOrdered entry := by
    rcases hindex schema.storageName entry (by simp [entryOf, hfound]) hloaded
      with ⟨found, rows, _, _, _, htree, hnext⟩
    refine ⟨numbered 1 (dataLines found.contents), htree, ?_⟩
    intro e he
    have hrange := numbered_key_range he
    rw [nextIdOfRows] at hnext
    rw [hnext]
    omega
  refine ⟨rfl, file, slot, entry, ?_, hordered⟩
  exact
    { file_found := hfile
      file_ne_nil := hne
      row_ne_nil := expectedRow_ne_nil (readSchema_accepted hread)
      row_text := expectedRow_text h.columns_valid hnul
      row_length := expectedRow_length
      entry_found := hfound
      entry_loaded := hloaded
      entry_nextId := heq }

end Insert

/-!
## The append and the registration
-/

section Append

variable {state : EngineState} {schema : Schema} {id : Int}
  {row : List Bytes} {file : CsvFile} {slot : Nat} {entry : TableIndex}
  {append : Option AppendFault} {available : Option Nat}

theorem appendedDir_contents
    (hready : ReadyToAppend state schema id row file slot entry) (name : Bytes) :
    (appendedDir state schema row file append).contents name =
      if name = schema.storageName then
        some (appendRow file.contents row append).1
      else state.dataDir.contents name := by
  have hfiles := dataDir_write_files state.dataDir schema.storageName
    (appendRow file.contents row append).1 hready.file_found name
  unfold appendedDir DataDir.contents
  rw [hfiles]
  by_cases hname : name = schema.storageName
  · simp [hname]
  · simp [hname]

theorem registerRow_result_congr
    (hready : ReadyToAppend state schema id row file slot entry)
    (dataDir : DataDir) (rowOffset : Int) :
    tableIndexRegisterRow dataDir schema id rowOffset state.index available =
      tableIndexRegisterRow state.dataDir schema id rowOffset state.index
        available := by
  rw [tableIndexRegisterRow_of_loaded hready.entry_found hready.entry_loaded,
    tableIndexRegisterRow_of_loaded hready.entry_found hready.entry_loaded]

theorem tableIndexIsLoaded_invalidate (index : IndexState) (name : Bytes) :
    tableIndexIsLoaded (tableIndexInvalidate index name) name = false := by
  unfold tableIndexIsLoaded tableIndexInvalidate
  cases hfound : findTableIndex index.registry.items name with
  | none => simp [hfound]
  | some found =>
      rcases found with ⟨slot, entry⟩
      have hname : (unloadedTableIndex entry).tableName = name := by
        change entry.tableName = name
        exact findTableIndex_tableName hfound
      simp only [writeEntry]
      rw [findTableIndex_set hfound hname, if_pos rfl]
      rfl

theorem registerRow_registered
    (hready : ReadyToAppend state schema id row file slot entry)
    (hordered : EntryOrdered entry) {dataDir : DataDir} {rowOffset : Int}
    {index : IndexState} {left : Option Nat}
    (h : tableIndexRegisterRow dataDir schema id rowOffset state.index
      available = (index, none, left)) :
    exists registered,
      entryOf index.registry schema.storageName = some registered ∧
        bptreeSearch registered.tree id = some rowOffset := by
  rw [tableIndexRegisterRow_of_loaded hready.entry_found hready.entry_loaded,
    ← hready.entry_nextId] at h
  by_cases hforced : state.index.forceNextRegisterFailure = true
  · rw [if_pos hforced] at h
    simp at h
  · rw [if_neg hforced, Prod.mk.injEq] at h
    rcases h with ⟨rfl, hresult⟩
    have hnone := congrArg Prod.fst hresult
    simp only at hnone
    have hwritten := registerInEntry_ok hnone
    have hname :=
      (@registerInEntry_tableName available entry entry.nextId rowOffset).trans
        (findTableIndex_tableName hready.entry_found)
    refine ⟨registeredEntry entry rowOffset, ?_, ?_⟩
    · simp only
      rw [entryOf_writeEntry hready.entry_found hname, if_pos rfl, hwritten]
    · rw [← hready.entry_nextId]
      exact bptreeSearch_registeredEntry hordered rowOffset

theorem drop_eq_row_iff {contents : Bytes} (hrow : row ≠ [])
    (hok : (appendRow contents row append).2.ok = true) :
    (appendRow contents row append).1.drop
          (contents ++ lineSeparator contents).length = csvRow row <->
      (appendRow contents row append).1 =
        contents ++ lineSeparator contents ++ csvRow row := by
  rcases appendRow_reported hok with ⟨_, hprefix, _⟩
  constructor
  · intro hdrop
    apply hprefix.eq_of_length
    have hlength := congrArg List.length hdrop
    have hle := hprefix.length_le
    have hpos := List.length_pos_of_ne_nil (csvRow_ne_nil hrow)
    rw [List.length_drop] at hlength
    rw [List.length_append] at hle ⊢
    omega
  · intro hcomplete
    rw [hcomplete]
    exact List.drop_left

end Append

/-!
## The exact condition
-/

section Truth

variable {schemaDir : SchemaDir} {statement : InsertStatement}
  {faults : Faults} {state : EngineState} {schema : Schema}
  {index : IndexState} {id : Int} {available : Option Nat} {file : CsvFile}
  {slot : Nat} {entry : TableIndex}

theorem insertWritesAllOrNothing_iff
    (h : ReachesAppend schemaDir statement faults state schema index id
      available (expectedRow statement schema))
    (hfile : state.dataDir.files schema.storageName = .ok file) :
    InsertWritesAllOrNothing schemaDir statement faults state <->
      (file.updateError = none ->
        WritesAllOrNothing file.contents (expectedRow statement schema)
            faults.append ∨
          CloseFails faults.append ∧
            (tableIndexRegisterRow state.dataDir schema id
              (file.contents ++ lineSeparator file.contents).length index
              available).2.1 ≠ none) := by
  constructor
  · intro hwrites hopen
    apply hwrites schema index id available (expectedRow statement schema)
      file.contents h
    rw [hfile]
    cases file
    simp only at hopen
    rw [hopen]
  · intro hwrites schema' index' id' available' rowValues' contents' h' hfile'
    have hschema := h.schema_loaded.symm.trans h'.schema_loaded
    rw [Except.ok.injEq] at hschema
    subst hschema
    have hid := h.id_found.symm.trans h'.id_found
    simp only [Prod.mk.injEq, Except.ok.injEq] at hid
    rcases hid with ⟨rfl, rfl, rfl⟩
    have hrow := h.row_built.symm.trans h'.row_built
    rw [Except.ok.injEq] at hrow
    subst hrow
    rw [hfile, Except.ok.injEq] at hfile'
    subst hfile'
    exact hwrites rfl

theorem insertTellsTruth_failed_iff
    (hfailed : (executeInsert schemaDir statement faults state).2.ok = false)
    {written contents : Bytes}
    (hcontents : state.dataDir.contents schema.storageName = some contents)
    (hafter : forall name,
      (executeInsert schemaDir statement faults state).1.dataDir.contents name =
        if name = schema.storageName then some written
        else state.dataDir.contents name) :
    InsertTellsTruth schemaDir statement faults state <->
      (written = contents ∨
        tableIndexIsLoaded
            (executeInsert schemaDir statement faults state).1.index
            schema.storageName = false) := by
  unfold InsertTellsTruth
  simp only [hfailed, Bool.false_eq_true, false_implies, true_and, true_implies]
  constructor
  · intro h
    rcases h schema.storageName with hsame | hunloaded
    · rw [hafter, if_pos rfl, hcontents, Option.some.injEq] at hsame
      exact Or.inl hsame
    · exact Or.inr hunloaded
  · intro h name
    by_cases hname : name = schema.storageName
    · rw [hafter, if_pos hname, hname, hcontents]
      rcases h with hsame | hunloaded
      · exact Or.inl (congrArg some hsame)
      · exact Or.inr hunloaded
    · rw [hafter, if_neg hname]
      exact Or.inl rfl

theorem insertTellsTruth_append_failed
    (hready : ReadyToAppend { state with index := index } schema id
      (expectedRow statement schema) file slot entry)
    (hexecuted : executeInsert schemaDir statement faults state =
      appendAndRegister schema id (expectedRow statement schema) faults.append
        { state with index := index } available)
    (hopen : file.updateError = none)
    (happend : (appendRow file.contents (expectedRow statement schema)
      faults.append).2.ok = false) :
    InsertTellsTruth schemaDir statement faults state <->
      WritesAllOrNothing file.contents (expectedRow statement schema)
        faults.append := by
  have hrun := @appendAndRegister_open _ _ _ _ _ _ _ faults.append available
    hready hopen
  rw [if_neg (by simp [happend])] at hrun
  have hfile := hready.file_found
  simp only at hfile
  have hcontents : state.dataDir.contents schema.storageName =
      some file.contents := by
    simp [DataDir.contents, hfile]
  have hafter : forall name,
      (executeInsert schemaDir statement faults state).1.dataDir.contents name =
        if name = schema.storageName then
          some (appendRow file.contents (expectedRow statement schema)
            faults.append).1
        else state.dataDir.contents name := by
    intro name
    rw [hexecuted, hrun]
    exact appendedDir_contents hready name
  have hloaded : tableIndexIsLoaded
      (executeInsert schemaDir statement faults state).1.index
      schema.storageName = true := by
    have hfound := hready.entry_found
    rw [hexecuted, hrun]
    simp only at hfound
    simp [tableIndexIsLoaded, hfound, hready.entry_loaded]
  rw [insertTellsTruth_failed_iff (by rw [hexecuted, hrun]; rfl) hcontents
    hafter, hloaded]
  simp [(appendRow_truthful_iff faults.append).2 happend]

theorem insertTellsTruth_register_failed
    (hready : ReadyToAppend { state with index := index } schema id
      (expectedRow statement schema) file slot entry)
    (hexecuted : executeInsert schemaDir statement faults state =
      appendAndRegister schema id (expectedRow statement schema) faults.append
        { state with index := index } available)
    (hopen : file.updateError = none)
    (happend : (appendRow file.contents (expectedRow statement schema)
      faults.append).2.ok = true)
    {after : IndexState} {text : Bytes} {left : Option Nat}
    (hregister : tableIndexRegisterRow state.dataDir schema id
      (file.contents ++ lineSeparator file.contents).length index available =
        (after, some text, left)) :
    InsertTellsTruth schemaDir statement faults state := by
  have hrun := @appendAndRegister_open _ _ _ _ _ _ _ faults.append available
    hready hopen
  have hresult := @registerRow_result_congr _ _ _ _ _ _ _ available hready
    (appendedDir { state with index := index } schema
      (expectedRow statement schema) file faults.append)
    (file.contents ++ lineSeparator file.contents).length
  simp only at hresult
  rw [if_pos happend, (appendRow_reported happend).1] at hrun
  simp only [hresult, hregister] at hrun
  have hfile := hready.file_found
  simp only at hfile
  have hcontents : state.dataDir.contents schema.storageName =
      some file.contents := by
    simp [DataDir.contents, hfile]
  rw [insertTellsTruth_failed_iff (by rw [hexecuted, hrun]) hcontents]
  · apply Or.inr
    rw [hexecuted, hrun]
    exact tableIndexIsLoaded_invalidate after schema.storageName
  · intro name
    rw [hexecuted, hrun]
    exact appendedDir_contents hready name

theorem insertTellsTruth_succeeded
    (h : ReachesAppend schemaDir statement faults state schema index id
      available (expectedRow statement schema))
    (hready : ReadyToAppend { state with index := index } schema id
      (expectedRow statement schema) file slot entry)
    (hordered : EntryOrdered entry) (hopen : file.updateError = none)
    (happend : (appendRow file.contents (expectedRow statement schema)
      faults.append).2.ok = true)
    {after : IndexState} {left : Option Nat}
    (hregister : tableIndexRegisterRow state.dataDir schema id
      (file.contents ++ lineSeparator file.contents).length index available =
        (after, none, left)) :
    InsertTellsTruth schemaDir statement faults state <->
      WritesAllOrNothing file.contents (expectedRow statement schema)
        faults.append := by
  rcases executeInsert_of_reached h with ⟨hexecuted, hassigned⟩
  have hrun := @appendAndRegister_open _ _ _ _ _ _ _ faults.append available
    hready hopen
  have hresult := @registerRow_result_congr _ _ _ _ _ _ _ available hready
    (appendedDir { state with index := index } schema
      (expectedRow statement schema) file faults.append)
    (file.contents ++ lineSeparator file.contents).length
  simp only at hresult
  rw [if_pos happend, (appendRow_reported happend).1] at hrun
  simp only [hresult, hregister] at hrun
  rcases registerRow_registered hready hordered hregister with
    ⟨registered, hentry, hsearch⟩
  have hwritten := @appendedDir_contents _ _ _ _ _ _ _ faults.append hready
    schema.storageName
  rw [if_pos rfl] at hwritten
  have htruth := (@appendRow_truthful_iff file.contents
    (expectedRow statement schema) faults.append).1 happend
  rw [htruth, ← drop_eq_row_iff hready.row_ne_nil happend]
  unfold InsertTellsTruth
  rw [hexecuted, hrun]
  simp only [true_implies, Bool.true_eq_false, false_implies, and_true]
  constructor
  · rintro ⟨schema', written, entry', id', rowOffset, hschema, hid, hfound,
      hoffset, hbytes, hdrop⟩
    have hsame := h.schema_loaded.symm.trans hschema
    rw [Except.ok.injEq] at hsame
    subst hsame
    rw [hassigned, Option.some.injEq] at hid
    subst hid
    rw [hentry, Option.some.injEq] at hfound
    subst hfound
    rw [hsearch, Option.some.injEq, Nat.cast_inj] at hoffset
    subst hoffset
    rw [hwritten, Option.some.injEq] at hbytes
    subst hbytes
    exact hdrop
  · intro hdrop
    exact ⟨schema, _, registered, id, _, h.schema_loaded, hassigned, hentry,
      hsearch, hwritten, hdrop⟩

/--
Where every loaded entry is what a rebuild gives, an INSERT tells the truth about
its row exactly when its append writes all or nothing.
-/
theorem insertTellsTruth_iff (hnul : statement.ValuesNulFree)
    (hcurrent :
      RegistryHolds (EntryCurrent state.dataDir) state.index.registry) :
    InsertTellsTruth schemaDir statement faults state <->
      InsertWritesAllOrNothing schemaDir statement faults state := by
  by_cases hreached : exists schema index id available rowValues,
      ReachesAppend schemaDir statement faults state schema index id available
        rowValues
  · rcases hreached with ⟨schema, index, id, available, rowValues, h⟩
    rcases readyToAppend_of_reached hnul hcurrent h with
      ⟨rfl, file, slot, entry, hready, hordered⟩
    have hexecuted := (executeInsert_of_reached h).1
    rw [insertWritesAllOrNothing_iff h hready.file_found]
    cases hopen : file.updateError with
    | some errno =>
        have hrefused := @appendAndRegister_refused _ _ _ _ _ _ _ faults.append
          available _ hready hopen
        rw [← hexecuted] at hrefused
        constructor
        · intro _ hfalse
          cases hfalse
        · intro _
          unfold InsertTellsTruth
          rw [hrefused.1, hrefused.2]
          simp
    | none =>
        simp only [true_implies]
        cases happend : (appendRow file.contents (expectedRow statement schema)
            faults.append).2.ok with
        | false =>
            rw [insertTellsTruth_append_failed hready hexecuted hopen happend]
            constructor
            · exact Or.inl
            · rintro (hwrites | ⟨hclose, _⟩)
              · exact hwrites
              · cases hfault : faults.append with
                | none => simp [hfault, CloseFails] at hclose
                | some fault =>
                    rw [hfault] at hclose happend
                    rw [appendRow_close_ok hclose] at happend
                    cases happend
        | true =>
            rcases hregister : tableIndexRegisterRow state.dataDir schema id
                (file.contents ++ lineSeparator file.contents).length index
                available with
              ⟨after, _ | text, left⟩
            · rw [insertTellsTruth_succeeded h hready hordered hopen happend
                hregister]
              simp
            · constructor
              · intro _
                by_cases hclose : CloseFails faults.append
                · exact Or.inr ⟨hclose, by simp⟩
                · apply Or.inl
                  rw [(appendRow_truthful_iff faults.append).1 happend]
                  apply (appendRow_reported happend).2.2
                  intro reached hfault
                  exact hclose (by rw [hfault]; rfl)
              · intro _
                exact insertTellsTruth_register_failed hready hexecuted hopen
                  happend hregister
  · have hnone : forall schema index id available rowValues,
        ¬ ReachesAppend schemaDir statement faults state schema index id
          available rowValues := by
      intro schema index id available rowValues h
      exact hreached ⟨schema, index, id, available, rowValues, h⟩
    rcases executeInsert_of_not_reached hnone with ⟨hfailed, hdir⟩
    constructor
    · intro _ schema index id available rowValues contents h
      exact absurd h (hnone schema index id available rowValues)
    · intro _
      unfold InsertTellsTruth
      rw [hfailed, hdir]
      simp

end Truth

/-- The disk is full when the stream is closed. -/
def fullDisk : Faults :=
  { memory := none, append := some { call := .close, reached := 0 } }

/-- The disk gets full inside the first field. -/
def nearlyFullDisk : Faults :=
  { memory := none, append := some { call := .field 0, reached := 1 } }

/--
A full disk makes an INSERT report a row that is not in the file, or leaves a
piece of a row below a loaded index.
-/
theorem insert_misreports_full_disk :
    RegistryHolds (EntryCurrent sampleDataDir)
        (startState sampleDataDir).index.registry ∧
      ¬ InsertTellsTruth sampleSchemaDir (sampleInsert (ascii "abc")) fullDisk
          (startState sampleDataDir) ∧
      ¬ InsertTellsTruth sampleSchemaDir (sampleInsert (ascii "abc"))
          nearlyFullDisk (startState sampleDataDir) := by
  refine ⟨startState_registry sampleDataDir, ?_, ?_⟩
  · intro h
    have hok : (executeInsert sampleSchemaDir (sampleInsert (ascii "abc"))
        fullDisk (startState sampleDataDir)).2.ok = true := by
      decide
    rcases h.1 hok with
      ⟨schema, written, entry, id, rowOffset, hschema, _, _, _, hwritten, hdrop⟩
    have hsample : loadSchema sampleSchemaDir
        (startState sampleDataDir).dataDir
        (sampleInsert (ascii "abc")).tableName = .ok sampleSchema := by
      decide
    rw [hsample, Except.ok.injEq] at hschema
    subst hschema
    have hbytes : (executeInsert sampleSchemaDir (sampleInsert (ascii "abc"))
        fullDisk (startState sampleDataDir)).1.dataDir.contents
          sampleSchema.storageName = some (ascii "name\n") := by
      decide
    rw [hbytes, Option.some.injEq] at hwritten
    subst hwritten
    have hrow : csvRow (expectedRow (sampleInsert (ascii "abc"))
        sampleSchema) = ascii "abc" := by
      decide
    rw [hrow] at hdrop
    have hmem : (0x63 : Byte) ∈ (ascii "name\n").drop rowOffset := by
      rw [hdrop]
      decide
    exact absurd (List.mem_of_mem_drop hmem) (by decide)
  · intro h
    have hfailed : (executeInsert sampleSchemaDir (sampleInsert (ascii "abc"))
        nearlyFullDisk (startState sampleDataDir)).2.ok = false := by
      decide
    rcases h.2 hfailed (ascii "t") with hsame | hunloaded
    · exact absurd hsame (by decide)
    · exact absurd hunloaded (by decide)

theorem insertTellsTruth_iff_sample :
    InsertTellsTruth sampleSchemaDir (sampleInsert (ascii "abc")) fullDisk
        (startState sampleDataDir) <->
      InsertWritesAllOrNothing sampleSchemaDir (sampleInsert (ascii "abc"))
        fullDisk (startState sampleDataDir) :=
  insertTellsTruth_iff (sampleInsert_nulFree (by decide))
    (startState_registry sampleDataDir)

end Execution
end SqlCsvServer
