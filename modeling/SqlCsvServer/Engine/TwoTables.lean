import SqlCsvServer.Engine.Adapter
import SqlCsvServer.Execution.Programs
import SqlCsvServer.Execution.SameAnswers
import SqlCsvServer.Index.TableParts

/-!
# Two requests on different tables

Each request works on the entry and the file of its own table, and reaches the entry
through the pointer that its section of `registry_mutex` has got it.  The
pointer is used behind that section, while the other request may be in one that makes
the array grow.
-/

namespace SqlCsvServer
namespace Engine

open Foundation Common Storage Index Sql Execution

/-!
## What a statement reads and writes
-/

section Files

variable {name : Bytes} {s t : EngineMemory}

theorem file_same (h : s.table name = t.table name) :
    s.dataDir.path = t.dataDir.path ∧ s.dataDir.files name = t.dataDir.files name :=
  ⟨congrArg TablePart.path h, congrArg TablePart.file h⟩

theorem loadSchema_same {schemaDir : SchemaDir} {tableName : Bytes}
    (hname : forall schema, readSchema schemaDir tableName = .ok schema ->
      schema.storageName = name)
    (h : s.table name = t.table name) :
    loadSchema schemaDir s.dataDir tableName = loadSchema schemaDir t.dataDir tableName := by
  rcases file_same h with ⟨hpath, hfile⟩
  unfold loadSchema
  cases hread : readSchema schemaDir tableName with
  | error text => rfl
  | ok schema =>
      have hstorage := hname schema hread
      simp only [validateCsvHeader, hstorage, hpath, hfile]

theorem readRowAtOffsetCsv_same (rowOffset : Int) (h : s.table name = t.table name) :
    readRowAtOffsetCsv s.dataDir name rowOffset =
      readRowAtOffsetCsv t.dataDir name rowOffset := by
  unfold readRowAtOffsetCsv
  rw [openTableFile_same h]

theorem scanSelectRows_same {schema : Schema} (hstorage : schema.storageName = name)
    (statement : SelectStatement) (selected : List SelectedColumn) (whereIndex : Option Nat)
    (h : s.table name = t.table name) :
    scanSelectRows statement schema selected whereIndex s.dataDir =
      scanSelectRows statement schema selected whereIndex t.dataDir := by
  rcases file_same h with ⟨hpath, hfile⟩
  unfold scanSelectRows
  rw [hstorage, hpath, hfile]

theorem appendRowCsv_same {a b : DataDir} (hpath : a.path = b.path)
    (hfile : a.files name = b.files name) (rowValues : List Bytes)
    (fault : Option AppendFault) :
    (appendRowCsv a name rowValues fault).1.files name =
        (appendRowCsv b name rowValues fault).1.files name ∧
      (appendRowCsv a name rowValues fault).2 = (appendRowCsv b name rowValues fault).2 := by
  have hopen : openTableFileForUpdate a name = openTableFileForUpdate b name := by
    unfold openTableFileForUpdate
    rw [hpath, hfile]
  unfold appendRowCsv
  rw [hopen]
  cases openTableFileForUpdate b name with
  | error text => exact ⟨hfile, rfl⟩
  | ok contents => exact ⟨by simp [DataDir.write, hfile], rfl⟩

theorem touches_append (hfits : tableSharing.fits s) (rowValues : List Bytes)
    (fault : Option AppendFault) :
    tableSharing.Touches name s (appendStep name rowValues fault s).1 := by
  rcases appendRowCsv_other s.dataDir name rowValues fault with ⟨hpath, hothers⟩
  refine ⟨hfits, fun other hother => ?_, fun _ _ _ hlive => hlive,
    fun hknown => ⟨hknown, rfl, rfl⟩⟩
  change ((appendStep name rowValues fault s).1).table other = s.table other
  unfold EngineMemory.table appendStep
  simp only [hpath, hothers other hother]

theorem matches_append (h : tableSharing.Similar name s t) (rowValues : List Bytes)
    (fault : Option AppendFault) :
    tableSharing.Matches name s t (appendStep name rowValues fault s).1
        (appendStep name rowValues fault t).1 ∧
      (appendStep name rowValues fault s).2 = (appendStep name rowValues fault t).2 := by
  have hpart : s.table name = t.table name := h.part
  rcases file_same hpart with ⟨hpath, hfile⟩
  rcases appendRowCsv_same hpath hfile rowValues fault with ⟨hwritten, hresult⟩
  refine ⟨⟨touches_append h.left rowValues fault, touches_append h.right rowValues fault, ?_⟩,
    hresult⟩
  change ((appendStep name rowValues fault s).1).table name =
    ((appendStep name rowValues fault t).1).table name
  have hentry : entryOf s.registry name = entryOf t.registry name :=
    congrArg TablePart.entry hpart
  have hkept := fun dataDir => (appendRowCsv_other dataDir name rowValues fault).1
  unfold EngineMemory.table appendStep
  simp only [hkept, hentry, hwritten, hpath]

end Files

/-!
## Programs on one table
-/

section Programs

variable {γ : Type} {name : Bytes} {held : Option (IndexPointer × IndexPointer)}

theorem storeRowProgram_alike (nextId : Int) (rowValues : List Bytes)
    (append : Option AppendFault) (available : Option Nat) :
    SameProgram name held (storeRowProgram name nextId rowValues append available)
      (storeRowProgram name nextId rowValues append available) := by
  refine .keep (fun s t h => (matches_append h rowValues append).1) fun s t h => ?_
  rw [(matches_append h rowValues append).2]
  simp only
  split
  · apply (registerRowProgram_alike nextId _ available).andThen
    rintro held (_ | text) _ rfl
    · exact .done rfl
    · exact invalidateProgram_alike.andThen fun _ _ _ _ => .done rfl
  · exact .done rfl

theorem executeInsertProgram_fresh {schemaDir : SchemaDir} {statement : InsertStatement}
    (hname : forall schema, readSchema schemaDir statement.tableName = .ok schema ->
      schema.storageName = name)
    (faults : Faults) (result : ExecResult -> γ) :
    tableSharing.Fresh name
      ((executeInsertProgram schemaDir statement faults).andThen fun executed =>
        .done (result executed)) := by
  refine fresh_read (fun s t h => loadSchema_same hname h) fun s => ?_
  cases hschema : loadSchema schemaDir s.dataDir statement.tableName with
  | error text => exact .done
  | ok schema =>
      have hstorage := hname schema (loadSchema_eq_ok_iff.mp hschema).1
      simp only
      cases validateInsertColumns statement schema with
      | some text => exact .done
      | none =>
          simp only [hstorage, LockProgram.andThen_assoc]
          apply getNextIdProgram_fresh
          · exact fun text left => ⟨_, .done⟩
          · intro held nextId left
            simp only
            cases buildInsertRow statement schema with
            | error text => exact .done rfl
            | ok rowValues =>
                apply (storeRowProgram_alike nextId rowValues faults.append left).andThen
                rintro held executed _ rfl
                exact .done rfl

theorem indexSelectProgram_fresh {schema : Schema} (hstorage : schema.storageName = name)
    (selected : List SelectedColumn) (whereValue : Bytes) (memory : Option Nat)
    (result : Except Bytes ResultTable -> γ) :
    tableSharing.Fresh name
      ((indexSelectProgram schema selected whereValue memory).andThen fun table =>
        .done (result table)) := by
  unfold indexSelectProgram
  cases parseIntStrict whereValue with
  | none => exact .done
  | some whereId =>
      simp only [hstorage, LockProgram.andThen_assoc]
      apply findRowProgram_fresh
      · exact fun text => ⟨_, .done⟩
      · rintro held (_ | rowOffset)
        · exact .done rfl
        · have hread : SameProgram name held
              (.read (fun memory => readRowAtOffsetCsv memory.dataDir name rowOffset)
                fun fields => .done (rowAtOffset schema selected whereId fields))
              (.read (fun memory => readRowAtOffsetCsv memory.dataDir name rowOffset)
                fun fields => .done (rowAtOffset schema selected whereId fields)) :=
            alike_read (fun s t => readRowAtOffsetCsv_same rowOffset) fun _ => .done rfl
          apply hread.andThen
          rintro held table _ rfl
          exact .done rfl

theorem executeSelectProgram_fresh {schemaDir : SchemaDir} {statement : SelectStatement}
    (hname : forall schema, readSchema schemaDir statement.tableName = .ok schema ->
      schema.storageName = name)
    (memory : Option Nat) (result : Except Bytes ResultTable -> γ) :
    tableSharing.Fresh name
      ((executeSelectProgram schemaDir statement memory).andThen fun table =>
        .done (result table)) := by
  refine fresh_read (fun s t h => loadSchema_same hname h) fun s => ?_
  cases hschema : loadSchema schemaDir s.dataDir statement.tableName with
  | error text => exact .done
  | ok schema =>
      have hstorage := hname schema (loadSchema_eq_ok_iff.mp hschema).1
      simp only
      cases buildSelectIndexes statement schema with
      | error text => exact .done
      | ok selected =>
          cases selected with
          | nil => exact .done
          | cons head more =>
              simp only
              cases resolveWhereIndex statement schema with
              | error text => exact .done
              | ok whereIndex =>
                  simp only
                  cases whereIdValue statement with
                  | none =>
                      exact fresh_read (fun s t h => scanSelectRows_same hstorage statement
                        (head :: more) whereIndex h) fun _ => .done
                  | some whereValue =>
                      exact indexSelectProgram_fresh hstorage (head :: more) whereValue
                        memory result

theorem executeStatementProgram_fresh {schemaDir : SchemaDir} {statement : Statement}
    (hname : forall schema, readSchema schemaDir (statementTableName statement) = .ok schema ->
      schema.storageName = name)
    (faults : Faults) :
    tableSharing.Fresh name (executeStatementProgram schemaDir statement faults) := by
  cases statement with
  | insertStatement statement =>
      exact executeInsertProgram_fresh hname faults fun executed => (executed, [])
  | selectStatement statement =>
      exact executeSelectProgram_fresh hname faults.memory selectResult

end Programs

/-!
## Two requests
-/

/-- Two statements, and what fails while each of them runs. -/
structure TwoRequests where
  schemaDir : SchemaDir
  statement : Bool -> Statement
  faults : Bool -> Faults

namespace TwoRequests

variable (requests : TwoRequests)

/-- The steps of each request. -/
def program (request : Bool) : IndexProgram (ExecResult × Bytes) :=
  executeStatementProgram requests.schemaDir (requests.statement request)
    (requests.faults request)

/-- What a request does with nobody else around. -/
def alone (request : Bool) (state : EngineState) : EngineState × ExecResult × Bytes :=
  executeStatement requests.schemaDir (requests.statement request) (requests.faults request)
    state

/-- The tables of the two requests are stored under different names. -/
structure OnTables (names : Bool -> Bytes) : Prop where
  storage : forall request schema,
    readSchema requests.schemaDir (statementTableName (requests.statement request)) =
        .ok schema ->
      schema.storageName = names request
  different : names false ≠ names true

/-- What the requests leave one after the other, this one first. -/
structure Serial (first : EngineMemory)
    (threads : Threads Bool EngineLock IndexPointer EngineMemory (ExecResult × Bytes))
    (request : Bool) : Prop where
  result : threads.program request = .done (requests.alone request (engineOf first)).2
  other : threads.program (!request) =
    .done (requests.alone (!request) (requests.alone request (engineOf first)).1).2
  /-- The loaded flag, the tree and the next id of every table. -/
  entries : forall name, entryOf threads.shared.registry name =
    entryOf
      (requests.alone (!request) (requests.alone request (engineOf first)).1).1.index.registry
      name
  files : forall name, threads.shared.dataDir.files name =
    (requests.alone (!request) (requests.alone request (engineOf first)).1).1.dataDir.files name

/-- What two requests on tables of these names have done so far. -/
structure KeptApart (names : Bool -> Bytes) (first : EngineMemory)
    (threads : Threads Bool EngineLock IndexPointer EngineMemory (ExecResult × Bytes)) :
    Prop where
  /-- A pointer that is used points to the entry of its own table. -/
  live : forall request pointer update next,
    threads.program request = .act (some pointer) update next ->
      threads.shared.Live (names request) pointer
  /-- In the end no update is lost. -/
  serial : (forall request, (threads.program request).Returned) ->
    exists request, requests.Serial first threads request

variable {requests} {names : Bool -> Bytes} {first : EngineMemory}

theorem run_program (request : Bool) (memory : EngineMemory) :
    exists freed, (requests.program request).run memory =
      (memoryOf (requests.alone request (engineOf memory)).1 freed,
        (requests.alone request (engineOf memory)).2) :=
  executeStatementProgram_run requests.schemaDir memory (requests.statement request)
    (requests.faults request)

theorem serial_of_oneByOne
    {threads : Threads Bool EngineLock IndexPointer EngineMemory (ExecResult × Bytes)}
    {request : Bool} (h : tableSharing.OneByOne requests.program first threads request) :
    requests.Serial first threads request := by
  rcases @run_program requests request first with ⟨freed, hrun⟩
  rcases @run_program requests (!request)
    (memoryOf (requests.alone request (engineOf first)).1 freed) with ⟨more, hlast⟩
  have hbehind : Sharing.behind requests.program first request =
      memoryOf (requests.alone request (engineOf first)).1 freed := by
    unfold Sharing.behind
    rw [hrun]
  have hresult := h.result
  have hother := h.other
  have hpart := h.part
  rw [hrun] at hresult
  rw [hbehind, hlast] at hother
  rw [hbehind, hlast] at hpart
  exact
    { result := hresult
      other := hother
      entries := fun name => congrArg TablePart.entry (hpart name)
      files := fun name => congrArg TablePart.file (hpart name) }

/--
Two requests on different tables, in a run that makes the array grow only while the other
request is not going to use a pointer: every pointer that is used is good, and in the
end no update is lost.
-/
theorem requests_kept_apart (requests : TwoRequests) (names : Bool -> Bytes)
    (first : EngineMemory) (hnames : requests.OnTables names)
    (hhook : first.indexMemory.index.forceNextRegisterFailure = false)
    {threads : Threads Bool EngineLock IndexPointer EngineMemory (ExecResult × Bytes)}
    (hreach : (tableSharing.quietSystem requests.program first).Reachable threads) :
    requests.KeptApart names first threads := by
  have hwhole : forall request,
      tableSharing.Fresh (names request) (requests.program request) :=
    fun request => executeStatementProgram_fresh (hnames.storage request) _
  have hdifferent : forall request, names (!request) ≠ names request := by
    intro request
    cases request with
    | false => exact hnames.different.symm
    | true => exact hnames.different
  have hapart := Sharing.apart_reachable hhook hwhole hdifferent hreach
  refine ⟨fun request pointer update next hat => hapart.live hat, fun hreturned => ?_⟩
  rcases hapart.returned hhook hwhole hdifferent hreturned with ⟨request, hserial⟩
  exact ⟨request, serial_of_oneByOne hserial⟩

end TwoRequests

/-!
## A full array
-/

def growthSchemaDir : SchemaDir :=
  { path := ascii "schema"
    openFile := fun filename =>
      if filename = ascii "a.meta" then .ok (ascii "table=a\ncolumns=x\n")
      else if filename = ascii "b.meta" then .ok (ascii "table=b\ncolumns=x\n")
      else .error .noEntry
    isRegular := fun _ => .error .noEntry
    entries := .ok [] }

def growthDataDir : DataDir :=
  { path := ascii "data"
    files := fun name =>
      if name = ascii "a" ∨ name = ascii "b" then
        .ok { contents := ascii "x\n1\n", updateError := none }
      else .error .noEntry }

/-- Three other tables have been used; the array has room for one more. -/
def growthMemory : EngineMemory :=
  { dataDir := growthDataDir
    indexMemory :=
      { index :=
          { registry :=
              { block := 1
                items := [newTableIndex (ascii "c"), newTableIndex (ascii "d"),
                  newTableIndex (ascii "e")]
                capacity := 4 }
            forceNextRegisterFailure := false }
        freed := fun _ => [] } }

def growthTable (request : Bool) : Bytes :=
  if request then ascii "b" else ascii "a"

def growthRequests : TwoRequests :=
  { schemaDir := growthSchemaDir
    statement := fun request =>
      .selectStatement
        { tableName := growthTable request
          columns := []
          selectAll := true
          condition := some { whereColumn := ascii "id", whereValue := ascii "1" } }
    faults := fun _ => noFaults }

def growthSchedule : List Bool :=
  List.replicate 4 false ++ List.replicate 11 true ++ List.replicate 7 false

theorem growthRequests_onTables : growthRequests.OnTables growthTable := by
  have hschema : forall request, (readSchema growthSchemaDir (growthTable request)).map
      Schema.storageName = .ok (growthTable request) := by
    decide
  constructor
  · intro request schema hread
    have hname := hschema request
    change readSchema growthSchemaDir (growthTable request) = _ at hread
    rw [hread] at hname
    exact Except.ok.inj hname
  · decide

def roomyMemory : EngineMemory :=
  { growthMemory with
    indexMemory.index.registry :=
      { growthMemory.indexMemory.index.registry with capacity := 8 } }

theorem requests_kept_apart_sample :
    exists threads,
      (tableSharing.quietSystem growthRequests.program roomyMemory).Reachable threads ∧
        (forall request, (threads.program request).Returned) ∧
          growthRequests.KeptApart growthTable roomyMemory threads := by
  have hrun : ((startThreads growthRequests.program roomyMemory).advances
      growthSchedule).map (fun threads =>
        decide (forall request, (threads.program request).Returned)) = some true := by
    decide +kernel
  have hplaces : forall place,
      place ∈ tableSharing.places (startThreads growthRequests.program roomyMemory)
          growthSchedule ->
        place = tableSharing.place roomyMemory := by
    decide +kernel
  rcases Option.map_eq_some_iff.mp hrun with ⟨threads, hadvances, hreturned⟩
  have hreach : (tableSharing.quietSystem growthRequests.program roomyMemory).Reachable
      threads :=
    Sharing.quiet_reachable_of_advances ⟨_, rfl, .refl⟩ hadvances hplaces
  exact ⟨threads, hreach, of_decide_eq_true hreturned,
    TwoRequests.requests_kept_apart growthRequests growthTable roomyMemory
      growthRequests_onTables rfl hreach⟩

/--
The second request makes the array grow under the pointer of the first one.  That one
goes on through it, and loads its table into the old array: in the end the registry
still says that it is not loaded.
-/
theorem growth_loses_load :
    (exists threads pointer update next,
      (lockSystem growthRequests.program growthMemory).Reachable threads ∧
        threads.program false = .act (some pointer) update next ∧
          ¬ threads.shared.Live (growthTable false) pointer) ∧
      ¬ forall threads, (lockSystem growthRequests.program growthMemory).Reachable threads ->
        growthRequests.KeptApart growthTable growthMemory threads := by
  have hstart : (lockSystem growthRequests.program growthMemory).Reachable
      (startThreads growthRequests.program growthMemory) :=
    ⟨_, rfl, .refl⟩
  constructor
  · have hgrown : ((startThreads growthRequests.program growthMemory).advances
        (growthSchedule.take 7)).map (fun threads =>
          (nextReference (threads.program false), threads.shared.registry.block)) =
        some (some { block := 1, slot := 3 }, 2) := by
      decide
    rcases Option.map_eq_some_iff.mp hgrown with ⟨threads, hrun, hseen⟩
    rcases Prod.mk.inj hseen with ⟨hreference, hblock⟩
    rcases act_of_nextReference hreference with ⟨update, next, hat⟩
    refine ⟨threads, _, update, next, reachable_of_advances hstart hrun, hat, ?_⟩
    rintro ⟨entry, hlive, _⟩
    exact absurd (hlive.trans hblock) (by decide)
  · intro h
    have hend : ((startThreads growthRequests.program growthMemory).advances
        growthSchedule).map (fun threads =>
          (decide (forall request, (threads.program request).Returned),
            (entryOf threads.shared.registry (ascii "a")).map TableIndex.loaded)) =
        some (true, some false) := by
      decide +kernel
    have hserial : forall request,
        (entryOf (growthRequests.alone (!request) (growthRequests.alone request
          (engineOf growthMemory)).1).1.index.registry (ascii "a")).map TableIndex.loaded =
            some true := by
      decide
    rcases Option.map_eq_some_iff.mp hend with ⟨threads, hrun, hseen⟩
    rcases Prod.mk.inj hseen with ⟨hreturned, hloaded⟩
    rcases (h threads (reachable_of_advances hstart hrun)).serial
      (of_decide_eq_true hreturned) with ⟨request, hall⟩
    rw [hall.entries, hserial] at hloaded
    cases hloaded

end Engine
end SqlCsvServer
