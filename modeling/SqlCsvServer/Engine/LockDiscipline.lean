import SqlCsvServer.Engine.AdapterProgram
import SqlCsvServer.Execution.IndexRun

/-!
# No deadlock between the mutexes of the engine

The mutex of the manager is given back before that of a table is taken, and under
the latter only those of the registry and of the test hooks are, one at a time.
Every way out of a call passes the release.
-/

namespace SqlCsvServer
namespace Engine

open Foundation Common Storage Index Sql Execution

/-!
## Programs that leave the locks as they were
-/

structure KeepsHeld {μ σ ρ : Type} (held : List EngineLock)
    (program : LockProgram EngineLock μ σ ρ) : Prop where
  disciplined : Disciplined EngineLock.rank (fun _ => held) held program
  noTable : TakesAtMost EngineLock.tableWeight 0 program

def BelowInner (held : List EngineLock) : Prop :=
  forall lock, lock ∈ held -> lock.rank < 2

section Keeps

variable {μ σ τ ρ α : Type} {held : List EngineLock}

theorem keepsHeld_lockFree {program : LockProgram EngineLock μ σ ρ}
    (h : LockFree program) : KeepsHeld held program where
  disciplined := h.disciplined held
  noTable := h.takesAtMost _ 0

theorem keepsHeld_done (result : ρ) :
    KeepsHeld held (.done result : LockProgram EngineLock μ σ ρ) :=
  keepsHeld_lockFree trivial

theorem keepsHeld_act {reference : Option μ} {update : σ -> σ}
    {next : σ -> LockProgram EngineLock μ σ ρ}
    (h : forall s, KeepsHeld held (next s)) :
    KeepsHeld held (.act reference update next) where
  disciplined := fun s => (h s).disciplined
  noTable := fun s => (h s).noTable

theorem keepsHeld_read {f : σ -> α} {next : α -> LockProgram EngineLock μ σ ρ}
    (h : forall found, KeepsHeld held (next found)) :
    KeepsHeld held (.read f next) :=
  keepsHeld_act fun s => h (f s)

theorem keepsHeld_call {f : σ -> σ × α}
    {next : α -> LockProgram EngineLock μ σ ρ}
    (h : forall found, KeepsHeld held (next found)) :
    KeepsHeld held (.call f next) :=
  keepsHeld_act fun s => h (f s).2

theorem keepsHeld_section {key : EngineLock} {f : σ -> σ × α}
    {next : α -> LockProgram EngineLock μ σ ρ} (hheld : BelowInner held)
    (hkey : key.rank = 2) (h : forall found, KeepsHeld held (next found)) :
    KeepsHeld held
      (.lock key (.call f fun found => .unlock key (next found))) where
  disciplined := by
    constructor
    · intro other hother
      rw [hkey]
      exact hheld other hother
    · intro s
      refine ⟨List.mem_cons_self, ?_⟩
      rw [List.erase_cons_head]
      exact (h (f s).2).disciplined
  noTable := by
    have hweight : key.tableWeight = 0 := by
      cases key with
      | table entry => cases hkey
      | manager => rfl
      | registry => rfl
      | testHook => rfl
    constructor
    · exact Nat.le_of_eq hweight
    · rw [hweight]
      exact fun s => (h (f s).2).noTable

theorem KeepsHeld.andThen {first : LockProgram EngineLock μ σ α}
    {next : α -> LockProgram EngineLock μ σ ρ} (hfirst : KeepsHeld held first)
    (hnext : forall result, KeepsHeld held (next result)) :
    KeepsHeld held (first.andThen next) where
  disciplined :=
    hfirst.disciplined.andThen fun result => (hnext result).disciplined
  noTable := hfirst.noTable.andThen fun result => (hnext result).noTable

theorem KeepsHeld.lift {get : τ -> σ} {set : τ -> σ -> τ}
    {program : LockProgram EngineLock μ σ ρ} (h : KeepsHeld held program) :
    KeepsHeld held (program.lift get set) where
  disciplined := h.disciplined.lift
  noTable := h.noTable.lift

end Keeps

/-!
## The index and the executor
-/

section Index

variable {held : List EngineLock} (storageName : Bytes)

theorem loadRows_lockFree (pointer : IndexPointer)
    (lines : List (Nat × Bytes)) (nextId : Int) (available : Option Nat) :
    LockFree (loadRows pointer lines nextId available) := by
  induction lines generalizing nextId available with
  | nil => exact fun _ => trivial
  | cons line lines ih =>
      rcases line with ⟨offset, text⟩
      unfold loadRows
      cases csvParseLine text with
      | error text => exact fun _ => trivial
      | ok fields =>
          intro memory
          simp only
          rcases (insertBehind pointer nextId offset available memory).2 with
            ⟨_ | error, left⟩
          · exact ih (nextId + 1) left
          · exact fun _ => trivial

theorem loadBehind_lockFree (pointer : IndexPointer) (available : Option Nat) :
    LockFree (loadBehind storageName pointer available) := by
  intro memory
  simp only
  by_cases hloaded : (memory.load pointer).loaded = true
  · rw [if_pos hloaded]
    trivial
  · rw [if_neg hloaded]
    intro _ opened
    simp only
    cases openTableFile opened.dataDir storageName with
    | error text => exact fun _ => trivial
    | ok contents =>
        simp only
        by_cases hempty : contents = []
        · rw [if_pos hempty]
          exact fun _ => trivial
        · rw [if_neg hempty]
          exact loadRows_lockFree pointer (dataLines contents) 1 available

theorem ensureLoadedProgram_keepsHeld (hheld : BelowInner held)
    (available : Option Nat) :
    KeepsHeld held (ensureLoadedProgram storageName available) := by
  apply keepsHeld_section hheld rfl
  rintro ⟨text | pointer, left⟩
  · exact keepsHeld_done _
  · exact keepsHeld_lockFree (loadBehind_lockFree storageName pointer left)

theorem getNextIdProgram_keepsHeld (hheld : BelowInner held)
    (available : Option Nat) :
    KeepsHeld held (getNextIdProgram storageName available) := by
  apply (ensureLoadedProgram_keepsHeld storageName hheld available).andThen
  rintro ⟨text | pointer, left⟩
  · exact keepsHeld_done _
  · exact keepsHeld_act fun _ => keepsHeld_done _

theorem findRowProgram_keepsHeld (hheld : BelowInner held) (id : Int)
    (available : Option Nat) :
    KeepsHeld held (findRowProgram storageName id available) := by
  apply (ensureLoadedProgram_keepsHeld storageName hheld available).andThen
  rintro ⟨text | pointer, left⟩
  · exact keepsHeld_done _
  · exact keepsHeld_act fun _ => keepsHeld_done _

theorem registerRowProgram_keepsHeld (hheld : BelowInner held)
    (id rowOffset : Int) (available : Option Nat) :
    KeepsHeld held (registerRowProgram storageName id rowOffset available) := by
  apply keepsHeld_call
  intro forced
  cases forced with
  | true => exact keepsHeld_done _
  | false =>
      apply (ensureLoadedProgram_keepsHeld storageName hheld available).andThen
      rintro ⟨text | pointer, left⟩
      · exact keepsHeld_done _
      · apply keepsHeld_act
        intro memory
        simp only
        rcases (insertBehind pointer id rowOffset left memory).2 with
          ⟨_ | error, rest⟩
        · exact keepsHeld_act fun _ => keepsHeld_done _
        · exact keepsHeld_done _

theorem invalidateProgram_keepsHeld (hheld : BelowInner held) :
    KeepsHeld held (invalidateProgram storageName) :=
  @keepsHeld_section IndexPointer EngineMemory Unit Unit held .registry
    (fun memory => (invalidateEntry storageName memory, ()))
    (fun _ => .done ()) hheld rfl fun _ => keepsHeld_done _

end Index

section Executor

variable {held : List EngineLock} (schemaDir : SchemaDir)

theorem storeRowProgram_keepsHeld (hheld : BelowInner held)
    (storageName : Bytes) (nextId : Int) (rowValues : List Bytes)
    (append : Option AppendFault) (available : Option Nat) :
    KeepsHeld held
      (storeRowProgram storageName nextId rowValues append available) := by
  apply keepsHeld_call
  intro storageResult
  by_cases hok : storageResult.ok = true
  · rw [if_pos hok]
    apply (registerRowProgram_keepsHeld storageName hheld nextId
      storageResult.rowOffset available).andThen
    intro error
    cases error with
    | none => exact keepsHeld_done _
    | some text =>
        exact (invalidateProgram_keepsHeld storageName hheld).andThen fun _ =>
          keepsHeld_done _
  · rw [if_neg hok]
    exact keepsHeld_done _

theorem executeInsertProgram_keepsHeld (hheld : BelowInner held)
    (statement : InsertStatement) (faults : Faults) :
    KeepsHeld held (executeInsertProgram schemaDir statement faults) := by
  apply keepsHeld_read
  intro loaded
  cases loaded with
  | error text => exact keepsHeld_done _
  | ok schema =>
      simp only
      cases validateInsertColumns statement schema with
      | some text => exact keepsHeld_done _
      | none =>
          apply (getNextIdProgram_keepsHeld schema.storageName hheld
            faults.memory).andThen
          rintro ⟨text | nextId, available⟩
          · exact keepsHeld_done _
          · simp only
            cases buildInsertRow statement schema with
            | error text => exact keepsHeld_done _
            | ok rowValues =>
                exact storeRowProgram_keepsHeld hheld schema.storageName nextId
                  rowValues faults.append available

theorem indexSelectProgram_keepsHeld (hheld : BelowInner held)
    (schema : Schema) (selected : List SelectedColumn) (whereValue : Bytes)
    (memory : Option Nat) :
    KeepsHeld held (indexSelectProgram schema selected whereValue memory) := by
  unfold indexSelectProgram
  cases parseIntStrict whereValue with
  | none => exact keepsHeld_done _
  | some whereId =>
      apply (findRowProgram_keepsHeld schema.storageName hheld whereId
        memory).andThen
      rintro (text | _ | rowOffset)
      · exact keepsHeld_done _
      · exact keepsHeld_done _
      · exact keepsHeld_read fun _ => keepsHeld_done _

theorem executeSelectProgram_keepsHeld (hheld : BelowInner held)
    (statement : SelectStatement) (memory : Option Nat) :
    KeepsHeld held (executeSelectProgram schemaDir statement memory) := by
  apply keepsHeld_read
  intro loaded
  cases loaded with
  | error text => exact keepsHeld_done _
  | ok schema =>
      simp only
      cases buildSelectIndexes statement schema with
      | error text => exact keepsHeld_done _
      | ok selected =>
          cases selected with
          | nil => exact keepsHeld_done _
          | cons first more =>
              simp only
              cases resolveWhereIndex statement schema with
              | error text => exact keepsHeld_done _
              | ok whereIndex =>
                  simp only
                  cases whereIdValue statement with
                  | none => exact keepsHeld_read fun _ => keepsHeld_done _
                  | some whereValue =>
                      exact indexSelectProgram_keepsHeld hheld schema
                        (first :: more) whereValue memory

theorem executeStatementProgram_keepsHeld (hheld : BelowInner held)
    (statement : Statement) (faults : Faults) :
    KeepsHeld held (executeStatementProgram schemaDir statement faults) := by
  cases statement with
  | insertStatement statement =>
      exact (executeInsertProgram_keepsHeld schemaDir hheld statement
        faults).andThen fun _ => keepsHeld_done _
  | selectStatement statement =>
      exact (executeSelectProgram_keepsHeld schemaDir hheld statement
        faults.memory).andThen fun _ => keepsHeld_done _

end Executor

/-!
## The adapter
-/

theorem adapterBodyProgram_keepsHeld {held : List EngineLock}
    (hheld : BelowInner held) (config : SqlEngineAdapterConfig)
    (statement : Statement) (environment : CallEnvironment) :
    KeepsHeld held (adapterBodyProgram config statement environment) := by
  have hdelay : KeepsHeld held currentDelayAfterLockMs :=
    @keepsHeld_section IndexPointer EngineShared Nat Nat held .testHook
      (fun shared => (shared, shared.hooks.delayAfterLockMs))
      (fun delay => .done delay) hheld rfl fun _ => keepsHeld_done _
  have hconsume : KeepsHeld held consumeForcedNextErrorProgram :=
    keepsHeld_section hheld rfl fun _ => keepsHeld_done _
  apply hdelay.andThen
  intro _
  apply hconsume.andThen
  intro forcedError
  by_cases hforced : forcedError ≠ .none
  · rw [if_pos hforced]
    exact keepsHeld_done _
  · rw [if_neg hforced]
    by_cases htmpfile : environment.tmpfileFails = true
    · rw [if_pos htmpfile]
      exact keepsHeld_done _
    · rw [if_neg htmpfile]
      exact (executeStatementProgram_keepsHeld config.schemaDir hheld statement
        environment.faults).lift.andThen fun _ => keepsHeld_done _

/-- What a call holds after `engine_lock_manager_acquire`. -/
def heldAfter : Except Bytes Nat -> List EngineLock
  | .error _ => []
  | .ok entry => [.table entry]

section Acquire

variable {μ σ : Type} {get : σ -> EngineLockManager}
  {set : σ -> EngineLockManager -> σ}

theorem lockEntry_disciplined (entry : Nat) :
    Disciplined EngineLock.rank heldAfter [] (lockEntry entry :
      LockProgram EngineLock μ σ (Except Bytes Nat)) := by
  intro refused
  cases refused with
  | true => rfl
  | false => exact ⟨(fun _ hfalse => by cases hfalse), rfl⟩

theorem lockEntry_takesOne (entry : Nat) :
    TakesAtMost EngineLock.tableWeight 1 (lockEntry entry :
      LockProgram EngineLock μ σ (Except Bytes Nat)) := by
  intro refused
  cases refused with
  | true => trivial
  | false => exact ⟨Nat.le_refl 1, trivial⟩

theorem creationFails_disciplined (text : Bytes) :
    Disciplined EngineLock.rank heldAfter [.manager] (creationFails text :
      LockProgram EngineLock μ σ (Except Bytes Nat)) :=
  ⟨List.mem_cons_self, rfl⟩

theorem createEntry_disciplined (tableKey : Bytes) :
    Disciplined EngineLock.rank heldAfter [.manager] (createEntry get set tableKey :
      LockProgram EngineLock μ σ (Except Bytes Nat)) := by
  intro refused
  cases refused with
  | true => exact creationFails_disciplined _
  | false =>
      intro refused
      cases refused with
      | true => exact creationFails_disciplined _
      | false =>
          intro refused
          cases refused with
          | true => exact creationFails_disciplined _
          | false =>
              exact fun s =>
                ⟨List.mem_cons_self, lockEntry_disciplined (addEntry (get s) tableKey).2⟩

theorem createEntry_takesOne (tableKey : Bytes) :
    TakesAtMost EngineLock.tableWeight 1 (createEntry get set tableKey :
      LockProgram EngineLock μ σ (Except Bytes Nat)) := by
  intro refused
  cases refused with
  | true => trivial
  | false =>
      intro refused
      cases refused with
      | true => trivial
      | false =>
          intro refused
          cases refused with
          | true => trivial
          | false => exact fun s => lockEntry_takesOne (addEntry (get s) tableKey).2

theorem engineLockManagerAcquire_disciplined (tableKey : Bytes) :
    Disciplined EngineLock.rank heldAfter [] (engineLockManagerAcquire get set tableKey :
      LockProgram EngineLock μ σ (Except Bytes Nat)) := by
  intro refused
  cases refused with
  | true => rfl
  | false =>
      refine ⟨(fun _ hfalse => by cases hfalse), ?_⟩
      intro s
      simp only
      cases findEntry (get s) tableKey with
      | none => exact createEntry_disciplined tableKey
      | some entry => exact ⟨List.mem_cons_self, lockEntry_disciplined entry⟩

theorem engineLockManagerAcquire_takesOne (tableKey : Bytes) :
    TakesAtMost EngineLock.tableWeight 1 (engineLockManagerAcquire get set tableKey :
      LockProgram EngineLock μ σ (Except Bytes Nat)) := by
  intro refused
  cases refused with
  | true => trivial
  | false =>
      refine ⟨Nat.zero_le _, ?_⟩
      intro s
      simp only
      cases findEntry (get s) tableKey with
      | none => exact createEntry_takesOne tableKey
      | some entry => exact lockEntry_takesOne entry

end Acquire

section Call

variable (config : SqlEngineAdapterConfig) (environment : CallEnvironment)

theorem belowInner_table (entry : Nat) : BelowInner [.table entry] := by
  intro lock hlock
  rw [List.mem_singleton.mp hlock]
  exact Nat.lt_succ_self 1

theorem lockedProgram_disciplined (statement : Statement)
    (storageName : Bytes) :
    Disciplined EngineLock.rank (fun _ => []) []
      (lockedProgram config statement environment storageName) := by
  apply (engineLockManagerAcquire_disciplined storageName).andThen
  intro acquired
  cases acquired with
  | error text => rfl
  | ok entry =>
      apply (adapterBodyProgram_keepsHeld (belowInner_table entry) config
        statement environment).disciplined.andThen
      intro result
      exact ⟨List.mem_cons_self, List.erase_cons_head ..⟩

theorem lockedProgram_takesOne (statement : Statement) (storageName : Bytes) :
    TakesAtMost EngineLock.tableWeight 1
      (lockedProgram config statement environment storageName) := by
  apply @TakesAtMost.andThen _ _ _ _ _ _ 0 _ _ 1
    (engineLockManagerAcquire_takesOne storageName)
  intro acquired
  cases acquired with
  | error text => trivial
  | ok entry =>
      exact @TakesAtMost.andThen _ _ _ _ _ _ 0 _ _ 0
        (adapterBodyProgram_keepsHeld (belowInner_table entry) config statement
          environment).noTable
        fun _ => trivial

theorem adapterProgram_disciplined (sql : Option Bytes) :
    Disciplined EngineLock.rank (fun _ => []) []
        (adapterProgram config environment sql) ∧
      TakesAtMost EngineLock.tableWeight 1
        (adapterProgram config environment sql) := by
  unfold adapterProgram
  cases prepareSql config environment sql with
  | error result => exact ⟨rfl, trivial⟩
  | ok statement =>
      constructor
      · intro shared
        simp only
        cases loadSchema config.schemaDir shared.memory.dataDir
            (statementTableName statement) with
        | error text => rfl
        | ok schema =>
            exact lockedProgram_disciplined config environment statement
              schema.storageName
      · intro shared
        simp only
        cases loadSchema config.schemaDir shared.memory.dataDir
            (statementTableName statement) with
        | error text => trivial
        | ok schema =>
            exact lockedProgram_takesOne config environment statement
              schema.storageName

end Call

/-!
## Any number of calls
-/

/-- One call of the adapter. -/
structure EngineCall where
  config : SqlEngineAdapterConfig
  environment : CallEnvironment
  sql : Option Bytes

/-- The program of a call. -/
def EngineCall.program (call : EngineCall) :
    EngineProgram SqlEngineAdapterResult :=
  adapterProgram call.config call.environment call.sql

/-- Calls on any tables that start from this shared state. -/
def engineCalls {ι : Type} [DecidableEq ι] (calls : ι -> EngineCall)
    (shared : EngineShared) :
    Transition (Threads ι EngineLock IndexPointer EngineShared SqlEngineAdapterResult) :=
  lockSystem (fun thread => (calls thread).program) shared

/--
In every reachable state, a call that has returned holds no mutex and has released
the mutex of its table as often as it has acquired it, which is at most once; and
while a call has not returned, some call can take its next step.
-/
theorem engine_locks_deadlock_free {ι : Type} [DecidableEq ι]
    (calls : ι -> EngineCall) (shared : EngineShared)
    {threads : Threads ι EngineLock IndexPointer EngineShared SqlEngineAdapterResult}
    (hreach : (engineCalls calls shared).Reachable threads) :
    (forall call, (threads.program call).Returned ->
      (forall lock, threads.owner lock ≠ some call) ∧
        forall entry,
          threads.times call (.acquired (.table entry)) =
              threads.times call (.released (.table entry)) ∧
            threads.times call (.acquired (.table entry)) ≤ 1) ∧
      forall call, ¬ (threads.program call).Returned ->
        exists mover next, ThreadStep threads mover next := by
  have hdisciplined := fun thread =>
    adapterProgram_disciplined (calls thread).config (calls thread).environment
      (calls thread).sql
  rcases holding_reachable (fun thread => (hdisciplined thread).1) hreach with
    ⟨held, hheld⟩
  constructor
  · intro call hreturned
    refine ⟨fun lock => (hheld.returned hreturned lock).1, ?_⟩
    intro entry
    exact ⟨(hheld.returned hreturned (.table entry)).2,
      times_acquired_le_one (fun thread => (hdisciplined thread).2) hreach call
        rfl⟩
  · intro call hlive
    exact hheld.step_of_live EngineLock.rank_lt hlive

def sampleCall : EngineCall :=
  { config := { schemaDir := sampleSchemaDir, sqlLengthLimit := 0 }
    environment :=
      { faults := noFaults
        tmpfileFails := false
        captureError := none
        selfCopy := fun _ => []
        elapsedMs := 0
        wallElapsedMs := 0 }
    sql := some (ascii "SELECT * FROM t;") }

def sampleShared : EngineShared :=
  { lockManager := engineLockManagerInit
    memory := memoryOf (startState sampleDataDir) fun _ => []
    hooks := { forcedNextError := .none, delayAfterLockMs := 0 } }

theorem sampleCall_prepared :
    prepareSql sampleCall.config sampleCall.environment sampleCall.sql =
      .ok (.selectStatement
        { tableName := ascii "t"
          selectAll := true
          columns := []
          condition := none }) := by
  decide

def sampleInserts (thread : Fin 2) : EngineCall :=
  if thread = 0 then
    { sampleCall with sql := some (ascii "INSERT INTO t (name) VALUES ('d');") }
  else { sampleCall with sql := some (ascii "INSERT INTO t (name) VALUES ('e');") }

def contendedSchedule : List (Fin 2) :=
  List.replicate 11 0 ++ List.replicate 6 1

def serialSchedule : List (Fin 2) :=
  contendedSchedule ++ List.replicate 24 0 ++ List.replicate 22 1

theorem engine_locks_deadlock_free_sample :
    exists threads, (engineCalls sampleInserts sampleShared).Reachable threads ∧
      threads.owner (.table 0) = some 0 ∧ threads.advance 1 = none ∧
        exists (mover : Fin 2) (next : Threads (Fin 2) EngineLock IndexPointer EngineShared
            SqlEngineAdapterResult),
          ThreadStep threads mover next := by
  have hstart : (engineCalls sampleInserts sampleShared).Reachable
      (startThreads (fun thread => (sampleInserts thread).program) sampleShared) :=
    ⟨_, rfl, .refl⟩
  have hrun : ((startThreads (fun thread => (sampleInserts thread).program)
      sampleShared).advances contendedSchedule).map (fun threads =>
        (threads.owner (.table 0), (threads.advance 1).isNone,
          decide (threads.program 1).Returned)) =
      some (some 0, true, false) := by
    decide
  rcases Option.map_eq_some_iff.mp hrun with ⟨threads, hadvances, hseen⟩
  simp only [Prod.mk.injEq, Option.isNone_iff_eq_none, decide_eq_false_iff_not] at hseen
  have hreach := reachable_of_advances hstart hadvances
  exact ⟨threads, hreach, hseen.1, hseen.2.1,
    (engine_locks_deadlock_free sampleInserts sampleShared hreach).2 1 hseen.2.2⟩

end Engine
end SqlCsvServer
