import SqlCsvServer.Foundation.CriticalSection
import SqlCsvServer.Engine.LockDiscipline
import SqlCsvServer.Execution.AssignedIds
import SqlCsvServer.Storage.Headers

/-!
# Calls on one table are serial

Calls that name one table, by whatever name, all find the one entry of the lock
manager.  In any run they leave the files, the index and the results of one call after
another, in the order in which they took the mutex of that entry.
-/

namespace SqlCsvServer
namespace Engine

open Foundation Common Storage Index Sql Execution

/-!
## What the executor keeps
-/

def isTableLock : EngineLock -> Bool
  | .table _ => true
  | _ => false

abbrev KeepsHeaders {ρ : Type} (initial : DataDir) (program : IndexProgram ρ) : Prop :=
  WorksOn EngineLock.manager isTableLock
    (fun memory : EngineMemory => SameHeaders initial memory.dataDir) program

section Headers

variable {ρ α : Type} {initial : DataDir}

theorem keepsHeaders_act {reference : Option IndexPointer}
    {update : EngineMemory -> EngineMemory} {next : EngineMemory -> IndexProgram ρ}
    (hupdate : forall memory, (update memory).dataDir = memory.dataDir)
    (hnext : forall memory, KeepsHeaders initial (next memory)) :
    KeepsHeaders initial (.act reference update next) := by
  intro memory hfits
  refine ⟨?_, hnext memory⟩
  simp only [hupdate]
  exact hfits

theorem keepsHeaders_read {f : EngineMemory -> α} {next : α -> IndexProgram ρ}
    (hnext : forall found, KeepsHeaders initial (next found)) :
    KeepsHeaders initial (.read f next) :=
  keepsHeaders_act (fun _ => rfl) fun memory => hnext (f memory)

theorem keepsHeaders_section {f : EngineMemory -> EngineMemory × α}
    {next : α -> IndexProgram ρ}
    (hf : forall memory, (f memory).1.dataDir = memory.dataDir)
    (hnext : forall found, KeepsHeaders initial (next found)) :
    KeepsHeaders initial
      (.lock .registry (.call f fun found => .unlock .registry (next found))) := by
  refine ⟨EngineLock.noConfusion, rfl, ?_⟩
  apply keepsHeaders_act hf
  exact fun memory => ⟨EngineLock.noConfusion, rfl, hnext (f memory).2⟩

theorem loadRows_keepsHeaders (pointer : IndexPointer) (lines : List (Nat × Bytes))
    (nextId : Int) (available : Option Nat) :
    KeepsHeaders initial (loadRows pointer lines nextId available) := by
  induction lines generalizing nextId available with
  | nil => exact keepsHeaders_act (fun _ => rfl) fun _ => trivial
  | cons line lines ih =>
      rcases line with ⟨offset, text⟩
      unfold loadRows
      cases csvParseLine text with
      | error text => exact keepsHeaders_act (fun _ => rfl) fun _ => trivial
      | ok fields =>
          refine keepsHeaders_act (fun _ => rfl) fun memory => ?_
          simp only
          rcases (insertBehind pointer nextId offset available memory).2 with
            ⟨_ | error, left⟩
          · exact ih (nextId + 1) left
          · exact keepsHeaders_act (fun _ => rfl) fun _ => trivial

theorem loadBehind_keepsHeaders (storageName : Bytes) (pointer : IndexPointer)
    (available : Option Nat) :
    KeepsHeaders initial (loadBehind storageName pointer available) := by
  refine keepsHeaders_act (fun _ => rfl) fun memory => ?_
  simp only
  by_cases hloaded : (memory.load pointer).loaded = true
  · rw [if_pos hloaded]
    trivial
  · rw [if_neg hloaded]
    refine keepsHeaders_act (fun _ => rfl) fun _ => ?_
    refine keepsHeaders_act (fun _ => rfl) fun opened => ?_
    simp only
    cases openTableFile opened.dataDir storageName with
    | error text => exact keepsHeaders_act (fun _ => rfl) fun _ => trivial
    | ok contents =>
        simp only
        by_cases hempty : contents = []
        · rw [if_pos hempty]
          exact keepsHeaders_act (fun _ => rfl) fun _ => trivial
        · rw [if_neg hempty]
          exact loadRows_keepsHeaders pointer (dataLines contents) 1 available

theorem ensureLoadedProgram_keepsHeaders (storageName : Bytes) (available : Option Nat) :
    KeepsHeaders initial (ensureLoadedProgram storageName available) := by
  apply keepsHeaders_section (fun _ => rfl)
  rintro ⟨text | pointer, left⟩
  · trivial
  · exact loadBehind_keepsHeaders storageName pointer left

theorem getNextIdProgram_keepsHeaders (storageName : Bytes) (available : Option Nat) :
    KeepsHeaders initial (getNextIdProgram storageName available) := by
  apply (ensureLoadedProgram_keepsHeaders storageName available).andThen
  rintro ⟨text | pointer, left⟩
  · trivial
  · exact keepsHeaders_act (fun _ => rfl) fun _ => trivial

theorem findRowProgram_keepsHeaders (storageName : Bytes) (id : Int)
    (available : Option Nat) :
    KeepsHeaders initial (findRowProgram storageName id available) := by
  apply (ensureLoadedProgram_keepsHeaders storageName available).andThen
  rintro ⟨text | pointer, left⟩
  · trivial
  · exact keepsHeaders_act (fun _ => rfl) fun _ => trivial

theorem registerRowProgram_keepsHeaders (storageName : Bytes) (id rowOffset : Int)
    (available : Option Nat) :
    KeepsHeaders initial (registerRowProgram storageName id rowOffset available) := by
  refine keepsHeaders_act (fun _ => rfl) fun memory => ?_
  simp only
  cases (EngineMemory.onIndex consumeRegisterFailure memory).2 with
  | true => trivial
  | false =>
      apply (ensureLoadedProgram_keepsHeaders storageName available).andThen
      rintro ⟨text | pointer, left⟩
      · trivial
      · refine keepsHeaders_act (fun _ => rfl) fun memory => ?_
        simp only
        rcases (insertBehind pointer id rowOffset left memory).2 with ⟨_ | error, rest⟩
        · exact keepsHeaders_act (fun _ => rfl) fun _ => trivial
        · trivial

theorem invalidateProgram_keepsHeaders (storageName : Bytes) :
    KeepsHeaders initial (invalidateProgram storageName) :=
  @keepsHeaders_section Unit Unit initial
    (fun memory => (invalidateEntry storageName memory, ())) (fun _ => .done ())
    (fun _ => rfl) fun _ => trivial

theorem storeRowProgram_keepsHeaders {schema : Schema}
    (hheader : validateCsvHeader initial schema = .ok ()) (nextId : Int)
    (rowValues : List Bytes) (append : Option AppendFault) (available : Option Nat) :
    KeepsHeaders initial
      (storeRowProgram schema.storageName nextId rowValues append available) := by
  intro memory hfits
  refine ⟨appendRowCsv_sameHeaders hfits hheader rowValues append, ?_⟩
  simp only
  split
  · apply (registerRowProgram_keepsHeaders schema.storageName nextId _ available).andThen
    intro error
    cases error with
    | none => trivial
    | some text =>
        exact (invalidateProgram_keepsHeaders schema.storageName).andThen fun _ => trivial
  · trivial

theorem executeInsertProgram_keepsHeaders (schemaDir : SchemaDir)
    (statement : InsertStatement) (faults : Faults) :
    KeepsHeaders initial (executeInsertProgram schemaDir statement faults) := by
  intro memory hfits
  refine ⟨hfits, ?_⟩
  simp only [loadSchema_of_sameHeaders hfits]
  cases hschema : loadSchema schemaDir initial statement.tableName with
  | error text => trivial
  | ok schema =>
      have hheader := (loadSchema_eq_ok_iff.mp hschema).2
      simp only
      cases validateInsertColumns statement schema with
      | some text => trivial
      | none =>
          apply (getNextIdProgram_keepsHeaders schema.storageName faults.memory).andThen
          rintro ⟨text | nextId, available⟩
          · trivial
          · simp only
            cases buildInsertRow statement schema with
            | error text => trivial
            | ok rowValues =>
                exact storeRowProgram_keepsHeaders hheader nextId rowValues
                  faults.append available

theorem indexSelectProgram_keepsHeaders (schema : Schema) (selected : List SelectedColumn)
    (whereValue : Bytes) (memory : Option Nat) :
    KeepsHeaders initial (indexSelectProgram schema selected whereValue memory) := by
  unfold indexSelectProgram
  cases parseIntStrict whereValue with
  | none => trivial
  | some whereId =>
      apply (findRowProgram_keepsHeaders schema.storageName whereId memory).andThen
      rintro (text | _ | rowOffset)
      · trivial
      · trivial
      · exact keepsHeaders_act (fun _ => rfl) fun _ => trivial

theorem executeSelectProgram_keepsHeaders (schemaDir : SchemaDir)
    (statement : SelectStatement) (memory : Option Nat) :
    KeepsHeaders initial (executeSelectProgram schemaDir statement memory) := by
  apply keepsHeaders_read
  intro loaded
  cases loaded with
  | error text => trivial
  | ok schema =>
      simp only
      cases buildSelectIndexes statement schema with
      | error text => trivial
      | ok selected =>
          cases selected with
          | nil => trivial
          | cons first more =>
              simp only
              cases resolveWhereIndex statement schema with
              | error text => trivial
              | ok whereIndex =>
                  simp only
                  cases whereIdValue statement with
                  | none => exact keepsHeaders_act (fun _ => rfl) fun _ => trivial
                  | some whereValue =>
                      exact indexSelectProgram_keepsHeaders schema (first :: more)
                        whereValue memory

theorem executeStatementProgram_keepsHeaders (schemaDir : SchemaDir)
    (statement : Statement) (faults : Faults) :
    KeepsHeaders initial (executeStatementProgram schemaDir statement faults) := by
  cases statement with
  | insertStatement statement =>
      exact (executeInsertProgram_keepsHeaders schemaDir statement faults).andThen
        fun _ => trivial
  | selectStatement statement =>
      exact (executeSelectProgram_keepsHeaders schemaDir statement
        faults.memory).andThen fun _ => trivial

end Headers

/-!
## The entry of the table
-/

def EngineLockManager.keys (manager : EngineLockManager) : List Bytes :=
  manager.entries.map EngineTableLockEntry.tableKey

abbrev EnginePart : Type :=
  EngineMemory × TestHooks

def tableGuarding (initial : DataDir) (storageName : Bytes) :
    Guarding EngineLock EngineShared EnginePart EngineLockManager where
  outer := .manager
  isGuard := isTableLock
  part := fun shared => (shared.memory, shared.hooks)
  rest := EngineShared.lockManager
  guard := fun manager key =>
    exists entry, findEntry manager storageName = some entry ∧ key = .table entry
  sound := fun manager => manager.keys.Nodup
  fits := fun part => SameHeaders initial part.1.dataDir
  outer_not_guard := rfl
  guard_isGuard := by
    rintro manager key ⟨entry, _, rfl⟩
    rfl
  guard_unique := by
    rintro manager key other ⟨entry, hentry, rfl⟩ ⟨found, hfound, rfl⟩
    rw [hentry] at hfound
    rw [Option.some.inj hfound]

theorem findEntry_eq_none_iff {manager : EngineLockManager} {tableKey : Bytes} :
    findEntry manager tableKey = none <-> tableKey ∉ manager.keys := by
  unfold findEntry EngineLockManager.keys
  rw [Option.map_eq_none_iff, List.find?_eq_none]
  simp

theorem findEntry_addEntry (manager : EngineLockManager) (tableKey : Bytes) :
    findEntry (addEntry manager tableKey).1 tableKey =
      some (addEntry manager tableKey).2 := by
  simp [findEntry, addEntry]

section Body

variable {initial : DataDir} {storageName : Bytes} (config : SqlEngineAdapterConfig)
  (statement : Statement) (environment : CallEnvironment)

theorem works_hooks {ρ α : Type} {f : EngineShared -> EngineShared × α}
    {next : α -> EngineProgram ρ}
    (hmemory : forall shared, (f shared).1.memory = shared.memory)
    (hmanager : forall shared, (f shared).1.lockManager = shared.lockManager)
    (hf : forall shared other, other.memory = shared.memory -> other.hooks = shared.hooks ->
      (f other).1.hooks = (f shared).1.hooks ∧ (f other).2 = (f shared).2)
    (hnext : forall found, (tableGuarding initial storageName).Works (next found)) :
    (tableGuarding initial storageName).Works
      (.lock .testHook (.call f fun found => .unlock .testHook (next found))) := by
  refine ⟨EngineLock.noConfusion, rfl, ?_⟩
  intro shared hfits
  constructor
  · refine ⟨?_, hmanager shared, EngineLock.noConfusion, rfl, hnext (f shared).2⟩
    change SameHeaders initial (f shared).1.memory.dataDir
    rw [hmemory]
    exact hfits
  · intro other hpart
    rcases Prod.mk.inj hpart with ⟨hother, hhooks⟩
    rcases hf shared other hother hhooks with ⟨hsame, hfound⟩
    constructor
    · change ((f other).1.memory, (f other).1.hooks) = ((f shared).1.memory, (f shared).1.hooks)
      rw [hmemory, hmemory, hother, hsame]
    · simp only [hfound]

theorem adapterBodyProgram_works :
    (tableGuarding initial storageName).Works
      (adapterBodyProgram config statement environment) := by
  have hdelay : (tableGuarding initial storageName).Works currentDelayAfterLockMs :=
    @works_hooks initial storageName Nat Nat
      (fun shared => (shared, shared.hooks.delayAfterLockMs)) (fun delay => .done delay)
      (fun _ => rfl) (fun _ => rfl) (fun _ _ _ hhooks => ⟨hhooks, by rw [hhooks]⟩)
      fun _ => trivial
  have hconsume : (tableGuarding initial storageName).Works consumeForcedNextErrorProgram :=
    works_hooks (fun _ => rfl) (fun _ => rfl)
      (fun _ _ _ hhooks => ⟨by simp only [takeForcedNextError, hhooks],
        by simp only [takeForcedNextError, hhooks]⟩)
      fun _ => trivial
  apply hdelay.andThen
  intro _
  apply hconsume.andThen
  intro forcedError
  split
  · trivial
  · split
    · trivial
    · apply Guarding.Works.andThen
      · have hstatement : KeepsHeaders initial (executeStatementProgram config.schemaDir
            statement environment.faults) :=
          executeStatementProgram_keepsHeaders config.schemaDir statement environment.faults
        apply @Guarding.works_lift _ _ _ _ _ _ (tableGuarding initial storageName) _
          EngineShared.memory EngineShared.setMemory _ _ _
          (fun memory => SameHeaders initial memory.dataDir) _ _ _ hstatement
        · exact fun _ _ hpart => (Prod.mk.inj hpart).1
        · exact fun _ _ _ hpart => Prod.ext rfl (Prod.mk.inj hpart).2
        · exact fun _ _ => rfl
        · exact fun _ hfits => hfits
        · exact fun _ _ _ hfits => hfits
      · exact fun _ => trivial

end Body

section Acquire

variable {initial : DataDir} {storageName : Bytes} {ρ : Type}
  {call : EnginePart -> EnginePart × ρ} {refused : ρ -> Prop}
  {next : Except Bytes Nat -> EngineProgram ρ} {manager : EngineLockManager}

def EndsRefused (refused : ρ -> Prop) (next : Except Bytes Nat -> EngineProgram ρ) : Prop :=
  forall text, exists result, next (.error text) = .done result ∧ refused result

theorem EndsRefused.seeks (h : EndsRefused refused next) (text : Bytes) :
    (tableGuarding initial storageName).Seeks call refused false manager
      (next (.error text)) := by
  rcases h text with ⟨result, hnext, hresult⟩
  rw [hnext]
  exact ⟨rfl, hresult⟩

theorem lockEntry_seeks (hrefused : EndsRefused refused next) {entry : Nat}
    (hwork : (tableGuarding initial storageName).Performs call (.table entry)
      (next (.ok entry)))
    (hentry : findEntry manager storageName = some entry) :
    (tableGuarding initial storageName).Seeks call refused false manager
      ((lockEntry entry).andThen next) := by
  intro answer
  cases answer with
  | true => exact hrefused.seeks _
  | false => exact ⟨rfl, .inr ⟨⟨entry, hentry, rfl⟩, hwork⟩⟩

theorem creationFails_seeks (hrefused : EndsRefused refused next) (text : Bytes) :
    (tableGuarding initial storageName).Seeks call refused true manager
      ((creationFails text).andThen next) :=
  ⟨rfl, rfl, hrefused.seeks text⟩

theorem createEntry_seeks (hrefused : EndsRefused refused next)
    (hwork : forall entry, (tableGuarding initial storageName).Performs call (.table entry)
      (next (.ok entry)))
    (hentry : findEntry manager storageName = none) :
    (tableGuarding initial storageName).Seeks call refused true manager
      ((createEntry EngineShared.lockManager EngineShared.setLockManager
        storageName).andThen next) := by
  intro answer
  cases answer with
  | true => exact creationFails_seeks hrefused _
  | false =>
      intro answer
      cases answer with
      | true => exact creationFails_seeks hrefused _
      | false =>
          intro answer
          cases answer with
          | true => exact creationFails_seeks hrefused _
          | false =>
              intro shared _ hsound _ hknown
              have hsame : shared.lockManager = manager := hknown rfl
              have hnone : findEntry shared.lockManager storageName = none := by
                rw [hsame]
                exact hentry
              refine ⟨rfl, ?_, ?_, ?_, rfl, rfl, ?_⟩
              · exact fun hholds => Bool.noConfusion hholds
              · exact List.nodup_cons.mpr ⟨findEntry_eq_none_iff.mp hnone, hsound⟩
              · rintro key ⟨entry, hfound, _⟩
                rw [show findEntry shared.lockManager storageName = some entry from hfound]
                  at hnone
                cases hnone
              · exact lockEntry_seeks hrefused (hwork _)
                  (findEntry_addEntry shared.lockManager storageName)

theorem engineLockManagerAcquire_seeks (hrefused : EndsRefused refused next)
    (hwork : forall entry, (tableGuarding initial storageName).Performs call (.table entry)
      (next (.ok entry))) :
    (tableGuarding initial storageName).Seeks call refused false manager
      ((engineLockManagerAcquire EngineShared.lockManager EngineShared.setLockManager
        storageName).andThen next) := by
  intro answer
  cases answer with
  | true => exact hrefused.seeks _
  | false =>
      refine ⟨rfl, .inl ⟨rfl, ?_⟩⟩
      intro larger _ _ shared _ hsound _ _
      refine ⟨rfl, fun _ => rfl, hsound, Guarding.Extends.refl _ _, ?_⟩
      simp only
      cases hentry : findEntry shared.lockManager storageName with
      | none => exact createEntry_seeks hrefused hwork hentry
      | some entry => exact ⟨rfl, rfl, lockEntry_seeks hrefused (hwork entry) hentry⟩

end Acquire

/-!
## A call by itself
-/

/-- The files, the index and the hooks in a memory. -/
def worldOf (part : EnginePart) : World :=
  { engine := engineOf part.1, hooks := part.2 }

def sharedOf (part : EnginePart) : EngineShared :=
  { lockManager := engineLockManagerInit, memory := part.1, hooks := part.2 }

/-- A whole call with nobody else around. -/
def EngineCall.alone (call : EngineCall) (world : World) :
    World × SqlEngineAdapterResult :=
  sqlEngineAdapterExecute call.config call.environment none call.sql world

def EngineCall.onPart (call : EngineCall) (part : EnginePart) :
    EnginePart × SqlEngineAdapterResult :=
  match prepareSql call.config call.environment call.sql with
  | .error result => (part, result)
  | .ok statement =>
      match loadSchema call.config.schemaDir part.1.dataDir
          (statementTableName statement) with
      | .error text => (part, schemaError text)
      | .ok _ =>
          let ran := (adapterBodyProgram call.config statement call.environment).run
            (sharedOf part)
          ((ran.1.memory, ran.1.hooks), ran.2)

/-- The call names this table, if its schema loads at all. -/
def EngineCall.Names (call : EngineCall) (initial : DataDir) (storageName : Bytes) : Prop :=
  forall statement schema,
    prepareSql call.config call.environment call.sql = .ok statement ->
      loadSchema call.config.schemaDir initial (statementTableName statement) = .ok schema ->
        schema.storageName = storageName

def EngineCall.Refuses (call : EngineCall) (initial : DataDir)
    (result : SqlEngineAdapterResult) : Prop :=
  exists acquireError, forall world : World, SameHeaders initial world.engine.dataDir ->
    sqlEngineAdapterExecute call.config call.environment acquireError call.sql world =
      (world, result)

theorem adapterBodyProgram_run (config : SqlEngineAdapterConfig) (statement : Statement)
    (environment : CallEnvironment) (shared : EngineShared) :
    let ran := (adapterBodyProgram config statement environment).run shared
    let alone := adapterBody config statement environment
      (worldOf (shared.memory, shared.hooks))
    worldOf (ran.1.memory, ran.1.hooks) = alone.1 ∧ ran.2 = alone.2 := by
  unfold adapterBodyProgram adapterBody currentDelayAfterLockMs
    consumeForcedNextErrorProgram consumeForcedNextError
  simp only [LockProgram.run_andThen, LockProgram.run_lock, LockProgram.run_read,
    LockProgram.run_call, LockProgram.run_unlock, LockProgram.run_done, takeForcedNextError,
    worldOf]
  by_cases hforced : shared.hooks.forcedNextError = .none
  · simp only [hforced, ne_eq, not_true_eq_false, if_false]
    by_cases htmpfile : environment.tmpfileFails = true
    · simp only [htmpfile, if_true]
      exact ⟨rfl, rfl⟩
    · have hlift := @LockProgram.run_lift EngineLock IndexPointer EngineMemory EngineShared
        (ExecResult × Bytes) EngineShared.memory EngineShared.setMemory (fun _ _ => rfl)
        (fun _ _ _ => rfl) fun _ => rfl
      simp only [htmpfile, if_false, Bool.false_eq_true, LockProgram.run_andThen, hlift]
      rcases executeStatementProgram_run config.schemaDir shared.memory statement
        environment.faults with ⟨freed, hrun⟩
      simp only [hrun, EngineShared.setMemory, LockProgram.run_done, executeUnderLock]
      exact ⟨rfl, trivial⟩
  · simp only [hforced, ne_eq, not_false_eq_true, if_true]
    exact ⟨rfl, rfl⟩

section Call

variable (call : EngineCall)

theorem EngineCall.onPart_alone (part : EnginePart) :
    worldOf (call.onPart part).1 = (call.alone (worldOf part)).1 ∧
      (call.onPart part).2 = (call.alone (worldOf part)).2 := by
  unfold EngineCall.onPart EngineCall.alone sqlEngineAdapterExecute
  cases prepareSql call.config call.environment call.sql with
  | error result => exact ⟨rfl, rfl⟩
  | ok statement =>
      simp only [worldOf, engineOf]
      cases loadSchema call.config.schemaDir part.1.dataDir
          (statementTableName statement) with
      | error text => exact ⟨rfl, rfl⟩
      | ok schema =>
          exact adapterBodyProgram_run call.config statement call.environment
            (sharedOf part)

theorem EngineCall.onPart_locked {statement : Statement} {schema : Schema} {part : EnginePart}
    (hprepared : prepareSql call.config call.environment call.sql = .ok statement)
    (hschema : loadSchema call.config.schemaDir part.1.dataDir
      (statementTableName statement) = .ok schema) :
    let ran := (adapterBodyProgram call.config statement call.environment).run (sharedOf part)
    call.onPart part = ((ran.1.memory, ran.1.hooks), ran.2) := by
  unfold EngineCall.onPart
  simp only [hprepared, hschema]

theorem EngineCall.inside (initial : DataDir) (storageName : Bytes) (statement : Statement)
    (entry : Nat) :
    (tableGuarding initial storageName).Inside (.table entry)
      ((adapterBodyProgram call.config statement call.environment).andThen fun result =>
        (engineLockManagerRelease entry).andThen fun _ => .done result) := by
  apply (adapterBodyProgram_works call.config statement call.environment).andThen_inside rfl
  intro result
  exact (if_pos rfl).mpr ⟨result, rfl⟩

theorem EngineCall.performs {initial : DataDir} {storageName : Bytes} {statement : Statement}
    {schema : Schema}
    (hprepared : prepareSql call.config call.environment call.sql = .ok statement)
    (hschema : loadSchema call.config.schemaDir initial (statementTableName statement) =
      .ok schema) (entry : Nat) :
    (tableGuarding initial storageName).Performs call.onPart (.table entry)
      ((adapterBodyProgram call.config statement call.environment).andThen fun result =>
        (engineLockManagerRelease entry).andThen fun _ => .done result) := by
  have hinside := call.inside initial storageName statement entry
  refine ⟨hinside, fun shared hfits => ?_⟩
  rw [← loadSchema_of_sameHeaders hfits] at hschema
  have hsame := hinside.run_congr hfits
    (rfl : (tableGuarding initial storageName).part (sharedOf (shared.memory, shared.hooks)) =
      (tableGuarding initial storageName).part shared)
  rw [← hsame.1, ← hsame.2]
  rw [show call.onPart ((tableGuarding initial storageName).part shared) = _ from
    call.onPart_locked hprepared hschema]
  rw [LockProgram.run_andThen]
  exact ⟨rfl, rfl⟩

theorem EngineCall.onPart_fits {initial : DataDir} {part : EnginePart}
    (hfits : SameHeaders initial part.1.dataDir) :
    SameHeaders initial (call.onPart part).1.1.dataDir := by
  unfold EngineCall.onPart
  split
  · exact hfits
  · rename_i statement _
    split
    · exact hfits
    · have hkept := @Guarding.Inside.run_fits _ _ _ _ _ _ (tableGuarding initial []) _ _ _
        (call.inside initial [] statement 0) (sharedOf part) hfits
      rw [LockProgram.run_andThen] at hkept
      exact hkept

theorem EngineCall.seeks {initial : DataDir} {storageName : Bytes}
    (hname : call.Names initial storageName) (manager : EngineLockManager) :
    (tableGuarding initial storageName).Seeks call.onPart (call.Refuses initial) false
      manager call.program := by
  unfold EngineCall.program adapterProgram
  cases hprepared : prepareSql call.config call.environment call.sql with
  | error result =>
      refine ⟨rfl, none, fun world _ => ?_⟩
      unfold sqlEngineAdapterExecute
      rw [hprepared]
  | ok statement =>
      intro shared hfits hsound _ _
      refine ⟨rfl, fun _ => rfl, hsound, Guarding.Extends.refl _ _, ?_⟩
      have hload : forall dataDir, SameHeaders initial dataDir ->
          loadSchema call.config.schemaDir dataDir (statementTableName statement) =
            loadSchema call.config.schemaDir initial (statementTableName statement) :=
        fun dataDir hsame => loadSchema_of_sameHeaders hsame _ _
      simp only [hload shared.memory.dataDir hfits]
      cases hschema : loadSchema call.config.schemaDir initial
          (statementTableName statement) with
      | error text =>
          refine ⟨rfl, none, fun world hsame => ?_⟩
          unfold sqlEngineAdapterExecute
          rw [hprepared]
          simp only [hload world.engine.dataDir hsame, hschema]
      | ok schema =>
          have hstorage := hname statement schema hprepared hschema
          change (tableGuarding initial storageName).Seeks _ _ _ _
            (lockedProgram call.config statement call.environment schema.storageName)
          rw [hstorage]
          apply engineLockManagerAcquire_seeks
          · intro text
            refine ⟨_, rfl, some text, fun world hsame => ?_⟩
            unfold sqlEngineAdapterExecute
            rw [hprepared]
            simp only [hload world.engine.dataDir hsame, hschema]
          · exact fun entry => call.performs hprepared hschema entry

end Call

/-!
## Ids
-/

def EngineCall.insert (call : EngineCall) : Option InsertStatement :=
  match prepareSql call.config call.environment call.sql with
  | .ok (.insertStatement statement) => some statement
  | _ => none

def EngineCall.insertId (call : EngineCall) (world : World) : Option Int :=
  call.insert.bind fun statement =>
    assignedId call.config.schemaDir statement call.environment.faults world.engine

section Ids

variable {config : SqlEngineAdapterConfig} {environment : CallEnvironment} {world : World}

theorem executedResult_ok {statement : Statement} {executed : ExecResult} {printed : Bytes}
    (h : (executedResult statement environment executed printed).ok = true) :
    executed.ok = true := by
  unfold executedResult at h
  split at h
  · assumption
  · cases h

theorem adapterBody_insert {statement : InsertStatement}
    (hok : (adapterBody config (.insertStatement statement) environment world).2.ok = true) :
    (executeInsert config.schemaDir statement environment.faults world.engine).2.ok = true ∧
      (adapterBody config (.insertStatement statement) environment world).1.engine =
        (executeInsert config.schemaDir statement environment.faults world.engine).1 := by
  unfold adapterBody consumeForcedNextError at *
  simp only at hok ⊢
  split at hok
  · cases hok
  · rename_i hforced
    rw [if_neg hforced]
    split at hok
    · cases hok
    · rename_i htmpfile
      rw [if_neg htmpfile]
      exact ⟨@executedResult_ok environment _ _ [] hok, rfl⟩

theorem adapterBody_select {statement : SelectStatement} {schema : Schema} {nextId : Int}
    (hnext : NextIdIs world.engine schema.storageName nextId)
    (hschema : loadSchema config.schemaDir world.engine.dataDir statement.tableName =
      .ok schema) :
    (adapterBody config (.selectStatement statement) environment world).1.engine =
      world.engine := by
  unfold adapterBody consumeForcedNextError
  simp only
  split
  · rfl
  · split
    · rfl
    · exact hnext.selectTable hschema environment.faults.memory

end Ids

section CallIds

variable {call : EngineCall} {world : World} {initial : DataDir} {storageName : Bytes}

theorem EngineCall.alone_insert (hname : call.Names initial storageName)
    (hfits : SameHeaders initial world.engine.dataDir) (hinsert : call.insert ≠ none)
    (hok : (call.alone world).2.ok = true) :
    exists id, call.insertId world = some id ∧
      NextIdIs (call.alone world).1.engine storageName (id + 1) ∧
        forall next, NextIdIs world.engine storageName next -> next = id := by
  unfold EngineCall.insertId EngineCall.insert EngineCall.alone sqlEngineAdapterExecute at *
  cases hprepared : prepareSql call.config call.environment call.sql with
  | error result =>
      rw [hprepared] at hinsert
      exact absurd rfl hinsert
  | ok statement =>
      rw [hprepared] at hinsert hok
      cases statement with
      | selectStatement statement => exact absurd rfl hinsert
      | insertStatement statement =>
          simp only at hok ⊢
          cases hschema : loadSchema call.config.schemaDir world.engine.dataDir
              (statementTableName (.insertStatement statement)) with
          | error text =>
              rw [hschema] at hok
              cases hok
          | ok schema =>
              have hinitial := hschema
              rw [loadSchema_of_sameHeaders hfits] at hinitial
              have hstorage := hname _ schema hprepared hinitial
              rw [hschema] at hok
              rcases adapterBody_insert hok with ⟨hexecuted, hengine⟩
              rcases executeInsert_nextId hschema hexecuted with ⟨id, hid, hnext⟩
              rw [← hstorage]
              refine ⟨id, hid, ?_, ?_⟩
              · simp only [hengine]
                exact hnext
              · intro next hknown
                have hsame := hknown.assignedId hschema call.environment.faults
                exact Option.some.inj (hsame.symm.trans hid)

theorem EngineCall.alone_other {next : Int} (hname : call.Names initial storageName)
    (hfits : SameHeaders initial world.engine.dataDir) (hinsert : call.insert = none)
    (hnext : NextIdIs world.engine storageName next) :
    NextIdIs (call.alone world).1.engine storageName next := by
  unfold EngineCall.insert EngineCall.alone sqlEngineAdapterExecute at *
  cases hprepared : prepareSql call.config call.environment call.sql with
  | error result => exact hnext
  | ok statement =>
      rw [hprepared] at hinsert
      cases statement with
      | insertStatement statement => cases hinsert
      | selectStatement statement =>
          simp only
          cases hschema : loadSchema call.config.schemaDir world.engine.dataDir
              (statementTableName (.selectStatement statement)) with
          | error text => exact hnext
          | ok schema =>
              have hinitial := hschema
              rw [loadSchema_of_sameHeaders hfits] at hinitial
              have hstorage := hname _ schema hprepared hinitial
              rw [← hstorage] at hnext ⊢
              simp only [adapterBody_select hnext hschema]
              exact hnext

end CallIds

/-!
## One call after another
-/

section Serial

variable {ι : Type} (calls : ι -> EngineCall)

def serialWorld (first : World) (order : List ι) : World :=
  order.foldl (fun world thread => ((calls thread).alone world).1) first

def serialIds : World -> List ι -> List Int
  | _, [] => []
  | world, thread :: order =>
      ((calls thread).insertId world).toList ++
        serialIds ((calls thread).alone world).1 order

def InsertsSucceed : World -> List ι -> Prop
  | _, [] => True
  | world, thread :: order =>
      ((calls thread).insert ≠ none -> ((calls thread).alone world).2.ok = true) ∧
        InsertsSucceed ((calls thread).alone world).1 order

def idsFrom (first : Int) : Nat -> List Int
  | 0 => []
  | count + 1 => first :: idsFrom (first + 1) count

/-- The calls in the order in which they took the mutex of a table. -/
def lockOrder (threads : Threads ι EngineLock IndexPointer EngineShared
    SqlEngineAdapterResult) : List ι :=
  Guarding.takenOrder isTableLock threads.log

variable {calls} {initial : DataDir} {storageName : Bytes}

theorem serially_worldOf (order : List ι) :
    forall part : EnginePart,
      worldOf (Guarding.serially (fun thread => (calls thread).onPart) part order) =
        serialWorld calls (worldOf part) order := by
  induction order with
  | nil => exact fun _ => rfl
  | cons thread order ih =>
      intro part
      have hhead := ((calls thread).onPart_alone part).1
      change worldOf (Guarding.serially _ ((calls thread).onPart part).1 order) =
        serialWorld calls ((calls thread).alone (worldOf part)).1 order
      rw [ih, hhead]

theorem serially_fits (order : List ι) :
    forall {part : EnginePart}, SameHeaders initial part.1.dataDir ->
      SameHeaders initial
        (Guarding.serially (fun thread => (calls thread).onPart) part order).1.dataDir := by
  induction order with
  | nil => exact fun hfits => hfits
  | cons thread order ih => exact fun hfits => ih ((calls thread).onPart_fits hfits)

theorem EngineCall.alone_fits {call : EngineCall} {world : World}
    (hfits : SameHeaders initial world.engine.dataDir) :
    SameHeaders initial (call.alone world).1.engine.dataDir := by
  have hkept := call.onPart_fits
    (show SameHeaders initial (memoryOf world.engine fun _ => [], world.hooks).1.dataDir
      from hfits)
  have hsame := (call.onPart_alone (memoryOf world.engine fun _ => [], world.hooks)).1
  change worldOf _ = (call.alone world).1 at hsame
  rw [← hsame]
  exact hkept

theorem serialIds_known (hnames : forall thread, (calls thread).Names initial storageName)
    {order : List ι} :
    forall {world : World} {next : Int}, SameHeaders initial world.engine.dataDir ->
      NextIdIs world.engine storageName next -> InsertsSucceed calls world order ->
        exists count, serialIds calls world order = idsFrom next count := by
  induction order with
  | nil => exact fun _ _ _ => ⟨0, rfl⟩
  | cons thread order ih =>
      intro world next hfits hnext hsucceed
      have hmore := (calls thread).alone_fits hfits
      by_cases hinsert : (calls thread).insert = none
      · rcases ih hmore ((calls thread).alone_other (hnames thread) hfits hinsert hnext)
          hsucceed.2 with ⟨count, hcount⟩
        refine ⟨count, ?_⟩
        rw [serialIds, EngineCall.insertId, hinsert, hcount]
        rfl
      · rcases (calls thread).alone_insert (hnames thread) hfits hinsert
          (hsucceed.1 hinsert) with ⟨id, hid, hbehind, hknown⟩
        rcases ih hmore hbehind hsucceed.2 with ⟨count, hcount⟩
        refine ⟨count + 1, ?_⟩
        rw [serialIds, hid, hcount, hknown next hnext]
        rfl

theorem serialIds_consecutive
    (hnames : forall thread, (calls thread).Names initial storageName) {order : List ι} :
    forall {world : World}, SameHeaders initial world.engine.dataDir ->
      InsertsSucceed calls world order ->
        exists first count, serialIds calls world order = idsFrom first count := by
  induction order with
  | nil => exact fun _ _ => ⟨0, 0, rfl⟩
  | cons thread order ih =>
      intro world hfits hsucceed
      have hmore := (calls thread).alone_fits hfits
      by_cases hinsert : (calls thread).insert = none
      · rcases ih hmore hsucceed.2 with ⟨first, count, hcount⟩
        refine ⟨first, count, ?_⟩
        rw [serialIds, EngineCall.insertId, hinsert, hcount]
        rfl
      · rcases (calls thread).alone_insert (hnames thread) hfits hinsert
          (hsucceed.1 hinsert) with ⟨id, hid, hbehind, _⟩
        rcases serialIds_known hnames hmore hbehind hsucceed.2 with ⟨count, hcount⟩
        refine ⟨id, count + 1, ?_⟩
        rw [serialIds, hid, hcount]
        rfl

end Serial

/-!
## Any number of calls
-/

/-- What calls on one table, started in a world, have done so far. -/
structure OneAfterAnother {ι : Type} (calls : ι -> EngineCall) (first : World)
    (threads : Threads ι EngineLock IndexPointer EngineShared SqlEngineAdapterResult) :
    Prop where
  /-- The list of the lock manager has one entry for a key. -/
  keys : threads.shared.lockManager.keys.Nodup
  /-- One call at most is between acquire and release. -/
  exclusive : forall thread other entry found,
    threads.owner (.table entry) = some thread ->
      threads.owner (.table found) = some other -> thread = other ∧ entry = found
  once : (lockOrder threads).Nodup
  /-- Files and index are as the calls leave them in the order of the lock. -/
  world : (forall entry, threads.owner (.table entry) = none) ->
    worldOf (threads.shared.memory, threads.shared.hooks) =
      serialWorld calls first (lockOrder threads)
  free : (forall thread, (threads.program thread).Returned) ->
    forall entry, threads.owner (.table entry) = none
  /-- The results are those of the calls in that order. -/
  results : forall front thread back result,
    lockOrder threads = front ++ thread :: back ->
      threads.program thread = .done result ->
        result = ((calls thread).alone (serialWorld calls first front)).2
  /-- The other calls have failed without an effect. -/
  refused : forall thread result, thread ∉ lockOrder threads ->
    threads.program thread = .done result ->
      (calls thread).Refuses first.engine.dataDir result
  /-- INSERTs behind each other get ids without a gap, as long as none of them fails. -/
  ids : forall front segment back, lockOrder threads = front ++ (segment ++ back) ->
    InsertsSucceed calls (serialWorld calls first front) segment ->
      exists id count,
        serialIds calls (serialWorld calls first front) segment = idsFrom id count

/--
Any number of calls that name one table, in any run: the lock manager has one entry for
each key, one call at a time works on the table, and files, index, results and ids are
those of the calls one after another in the order in which they took the lock.
-/
theorem table_calls_serial {ι : Type} [DecidableEq ι] (calls : ι -> EngineCall)
    (shared : EngineShared) (storageName : Bytes) (hkeys : shared.lockManager.keys.Nodup)
    (hnames : forall thread, (calls thread).Names shared.memory.dataDir storageName)
    {threads : Threads ι EngineLock IndexPointer EngineShared SqlEngineAdapterResult}
    (hreach : (engineCalls calls shared).Reachable threads) :
    OneAfterAnother calls (worldOf (shared.memory, shared.hooks)) threads := by
  have hfits : SameHeaders shared.memory.dataDir shared.memory.dataDir :=
    sameHeaders_refl _
  have h := @Guarding.guarded_reachable _ _ _ _ _ _ _
    (tableGuarding shared.memory.dataDir storageName) _ _
    (fun thread => (calls thread).onPart)
    (fun thread => (calls thread).Refuses shared.memory.dataDir)
    (fun thread => (calls thread).program) shared hfits hkeys
    (fun thread => (calls thread).seeks (hnames thread) shared.lockManager) threads hreach
  constructor
  · exact h.waiting.sound
  · intro thread other entry found howner hother
    rcases h.owner_unique rfl rfl howner hother with ⟨hthread, hlock⟩
    exact ⟨hthread, EngineLock.table.inj hlock⟩
  · exact h.waiting.nodup
  · intro hfree
    have hpart := h.part_of_free fun key hkey => by
      cases key with
      | table entry => exact hfree entry
      | manager => cases hkey
      | registry => cases hkey
      | testHook => cases hkey
    exact (congrArg worldOf hpart).trans (serially_worldOf _ _)
  · exact fun hreturned entry => h.free_of_returned hreturned (.table entry) rfl
  · intro front thread back result horder hdone
    have hresult := h.result_at horder hdone
    rw [hresult, ((calls thread).onPart_alone _).2, serially_worldOf]
    rfl
  · exact fun thread result hout hdone => h.refused_of_done hout hdone
  · intro front segment back _ hsucceed
    have hkept := @serially_fits _ calls shared.memory.dataDir front
      (shared.memory, shared.hooks) hfits
    have hworld := @serially_worldOf _ calls front (shared.memory, shared.hooks)
    rw [← hworld] at hsucceed ⊢
    exact serialIds_consecutive hnames hkept hsucceed

theorem sampleInserts_names (thread : Fin 2) :
    (sampleInserts thread).Names sampleShared.memory.dataDir (ascii "t") := by
  have hprepared : forall thread : Fin 2,
      (prepareSql (sampleInserts thread).config (sampleInserts thread).environment
        (sampleInserts thread).sql).map statementTableName = .ok (ascii "t") := by
    decide +kernel
  have hconfig : (sampleInserts thread).config.schemaDir = sampleSchemaDir := by
    unfold sampleInserts
    split <;> rfl
  intro statement schema hstatement hschema
  have hname := hprepared thread
  rw [hstatement] at hname
  rw [hconfig, Except.ok.inj hname] at hschema
  have hread := (loadSchema_eq_ok_iff.mp hschema).1
  rw [readSchema_sample, Except.ok.injEq] at hread
  rw [← hread]
  rfl

theorem table_calls_serial_sample :
    exists threads, (engineCalls sampleInserts sampleShared).Reachable threads ∧
      (forall thread, (threads.program thread).Returned) ∧
        lockOrder threads = [0, 1] ∧
          OneAfterAnother sampleInserts (worldOf (sampleShared.memory, sampleShared.hooks))
            threads := by
  have hstart : (engineCalls sampleInserts sampleShared).Reachable
      (startThreads (fun thread => (sampleInserts thread).program) sampleShared) :=
    ⟨_, rfl, .refl⟩
  have hrun : ((startThreads (fun thread => (sampleInserts thread).program)
      sampleShared).advances serialSchedule).map (fun threads =>
        (decide (forall thread, (threads.program thread).Returned), lockOrder threads)) =
      some (true, [0, 1]) := by
    decide +kernel
  rcases Option.map_eq_some_iff.mp hrun with ⟨threads, hadvances, hseen⟩
  rw [Prod.mk.injEq, decide_eq_true_eq] at hseen
  have hreach := reachable_of_advances hstart hadvances
  exact ⟨threads, hreach, hseen.1, hseen.2,
    table_calls_serial sampleInserts sampleShared (ascii "t") List.nodup_nil
      sampleInserts_names hreach⟩

end Engine
end SqlCsvServer
