import SqlCsvServer.Engine.TableSerial
import SqlCsvServer.Execution.DatabaseRuns

/-!
# Concurrent calls and the database

Calls on one table may run at the same time, each on its own thread.  They answer as the
database does when it takes their statements one after another, in the order in which
they took the mutex of the table, and leave files and an index that stand for the
database behind them.
-/

namespace SqlCsvServer
namespace Engine

open Foundation Common Storage Index Sql Execution

/-!
## What a client is told
-/

/-- A call of a plain statement with which nothing fails. -/
structure PlainCall (schemaDir : SchemaDir) (call : EngineCall) (statement : Statement) :
    Prop where
  prepared : prepareSql call.config call.environment call.sql = .ok statement
  directory : call.config.schemaDir = schemaDir
  plain : PlainStatement schemaDir statement
  faults : call.environment.faults = noFaults
  tmpfile : call.environment.tmpfileFails = false
  capture : call.environment.captureError = none

def ShowsResult (result : SqlEngineAdapterResult) : Answer -> Prop
  | .rejected => result.ok = false ∧ result.output = none
  | .inserted _ =>
      result.ok = true ∧ result.statementType = ascii "insert" ∧
        result.affectedRows = 1 ∧ result.output = some []
  | .selected table =>
      result.ok = true ∧ result.statementType = ascii "select" ∧
        result.affectedRows = table.rows.length ∧
        result.output = some (cString (printResultTable table))

def IsAnswerTo : Statement -> Answer -> Prop
  | _, .rejected => True
  | .insertStatement _, .inserted _ => True
  | .selectStatement _, .selected _ => True
  | _, _ => False

theorem answerFrom_isAnswer (table : NumberedTable Bytes Bytes) (statement : Statement) :
    IsAnswerTo statement (answerFrom table statement).2 := by
  cases statement with
  | insertStatement insert =>
      simp only [answerFrom]
      split <;> trivial
  | selectStatement select =>
      simp only [answerFrom]
      split <;> trivial

theorem execute_isAnswer (database : Database) (resolve : Bytes -> Option Bytes)
    (statement : Statement) :
    IsAnswerTo statement (database.execute resolve statement).2 := by
  unfold Database.execute
  cases resolve (namedTable statement) with
  | none => cases statement <;> trivial
  | some name =>
      cases hstored : database name with
      | none =>
          simp only [hstored]
          cases statement <;> trivial
      | some table =>
          simp only [hstored]
          exact answerFrom_isAnswer table statement

theorem executedResult_shows {statement : Statement} {environment : CallEnvironment}
    {outcome : Outcome} {answer : Answer} (hcapture : environment.captureError = none)
    (h : ShowsAnswer outcome answer) (hkind : IsAnswerTo statement answer) :
    ShowsResult (executedResult statement environment outcome.result outcome.output)
      answer := by
  rcases outcome with ⟨executed, printed, id⟩
  cases answer with
  | rejected =>
      have hfailed : executed.ok = false := h.1
      unfold executedResult
      rw [hfailed]
      exact ⟨rfl, rfl⟩
  | inserted number =>
      cases statement with
      | selectStatement select => exact hkind.elim
      | insertStatement insert =>
          rcases h with ⟨hresult, hprinted, -⟩
          simp only at hresult hprinted
          rw [hresult, hprinted]
          exact ⟨rfl, rfl, rfl, rfl⟩
  | selected table =>
      cases statement with
      | insertStatement insert => exact hkind.elim
      | selectStatement select =>
          have hshown : (executed, printed) = selectResult (.ok table) := h
          rw [selectResult, Prod.mk.injEq] at hshown
          simp only [executedResult, hshown, if_true, hcapture]
          exact ⟨rfl, rfl, rfl, rfl⟩

/-!
## A call by itself
-/

section Call

variable {schemaDir : SchemaDir} {resolve : Bytes -> Option Bytes} {call : EngineCall}
  {statement : Statement} {world : World} {database : Database}

theorem namedTable_eq (statement : Statement) :
    namedTable statement = statementTableName statement := by
  cases statement <;> rfl

theorem PlainCall.refines (hplain : PlainCall schemaDir call statement)
    (h : Represents schemaDir resolve world.engine database)
    (hhooks : world.hooks.forcedNextError = .none) :
    ShowsResult (call.alone world).2 (database.execute resolve statement).2 ∧
      Represents schemaDir resolve (call.alone world).1.engine
        (database.execute resolve statement).1 ∧
      (call.alone world).1.hooks.forcedNextError = .none := by
  rcases executeStatement_refines h hplain.plain with ⟨hanswer, hafter⟩
  unfold EngineCall.alone sqlEngineAdapterExecute
  simp only [hplain.prepared, hplain.directory]
  cases hschema : loadSchema schemaDir world.engine.dataDir
      (statementTableName statement) with
  | error text =>
      have hunknown : resolve (namedTable statement) = none := by
        cases hresolve : resolve (namedTable statement) with
        | none => rfl
        | some name =>
            rcases h.stored hresolve with ⟨schema, _, hloaded, _⟩
            rw [namedTable_eq, hschema] at hloaded
            cases hloaded
      unfold Database.execute
      rw [hunknown]
      exact ⟨⟨rfl, rfl⟩, h, hhooks⟩
  | ok schema =>
      simp only [adapterBody, consumeForcedNextError, hhooks, ne_eq, not_true_eq_false,
        if_false, hplain.tmpfile, Bool.false_eq_true, executeUnderLock, hplain.faults,
        hplain.directory]
      exact ⟨executedResult_shows hplain.capture hanswer
        (execute_isAnswer database resolve statement), hafter, trivial⟩

end Call

section Serial

variable {ι : Type} {schemaDir : SchemaDir} {resolve : Bytes -> Option Bytes}
  {calls : ι -> EngineCall} {statements : ι -> Statement}

theorem serialWorld_refines
    (hplain : forall thread, PlainCall schemaDir (calls thread) (statements thread))
    (order : List ι) :
    forall {world : World} {database : Database},
      Represents schemaDir resolve world.engine database ->
      world.hooks.forcedNextError = .none ->
        Represents schemaDir resolve (serialWorld calls world order).engine
            (database.run resolve (order.map statements)).1 ∧
          (serialWorld calls world order).hooks.forcedNextError = .none := by
  induction order with
  | nil => exact fun h hhooks => ⟨h, hhooks⟩
  | cons thread order ih =>
      intro world database h hhooks
      rcases (hplain thread).refines h hhooks with ⟨-, hafter, hquiet⟩
      exact ih hafter hquiet

end Serial

/-!
## Calls at the same time
-/

section Threads

variable {ι : Type} [DecidableEq ι]

theorem lockOrder_grows {calls : ι -> EngineCall} {shared : EngineShared}
    {earlier later : Threads ι EngineLock IndexPointer EngineShared SqlEngineAdapterResult}
    (hrun : (engineCalls calls shared).Runs earlier later) :
    lockOrder earlier <+: lockOrder later := by
  induction hrun with
  | refl => exact List.prefix_rfl
  | tail _ hstep ih =>
      refine ih.trans ?_
      rcases hstep with ⟨thread, hstep⟩
      cases hstep with
      | lock _ _ =>
          simp only [lockOrder, Guarding.takenOrder_append]
          exact List.prefix_append _ _
      | unlock _ _ =>
          simp only [lockOrder, Guarding.takenOrder_append]
          exact List.prefix_append _ _
      | act _ => exact List.prefix_rfl
      | choose _ _ => exact List.prefix_rfl

variable {schemaDir : SchemaDir} {call : EngineCall} {statement : Statement}
  {initial : DataDir} {storageName : Bytes}

theorem PlainCall.seeks (hplain : PlainCall schemaDir call statement)
    (hname : call.Names initial storageName) (manager : EngineLockManager) :
    (tableGuarding initial storageName).Seeks call.onPart (fun result => result.ok = false)
      false manager call.program := by
  unfold EngineCall.program adapterProgram
  rw [hplain.prepared]
  intro shared hfits hsound _ _
  refine ⟨rfl, fun _ => rfl, hsound, Guarding.Extends.refl _ _, ?_⟩
  have hload : loadSchema call.config.schemaDir shared.memory.dataDir
      (statementTableName statement) =
        loadSchema call.config.schemaDir initial (statementTableName statement) :=
    loadSchema_of_sameHeaders hfits _ _
  simp only [hload]
  cases hschema : loadSchema call.config.schemaDir initial
      (statementTableName statement) with
  | error text => exact ⟨rfl, rfl⟩
  | ok schema =>
      have hstorage := hname statement schema hplain.prepared hschema
      change (tableGuarding initial storageName).Seeks _ _ _ _
        (lockedProgram call.config statement call.environment schema.storageName)
      rw [hstorage]
      apply engineLockManagerAcquire_seeks
      · exact fun text => ⟨_, rfl, rfl⟩
      · exact fun entry => call.performs hplain.prepared hschema entry

end Threads

/-- What calls that run at the same time have done, seen from the database. -/
structure Linearized {ι : Type} (calls : ι -> EngineCall) (statements : ι -> Statement)
    (schemaDir : SchemaDir) (resolve : Bytes -> Option Bytes) (database : Database)
    (threads : Threads ι EngineLock IndexPointer EngineShared SqlEngineAdapterResult)
    (order : List ι) : Prop where
  once : order.Nodup
  /-- Files and index stand for the database behind the statements in this order. -/
  represents : (forall entry, threads.owner (.table entry) = none) ->
    Represents schemaDir resolve (engineOf threads.shared.memory)
      (database.run resolve (order.map statements)).1
  /-- A call is answered as its statement is behind those in front of it. -/
  answers : forall front thread back result, order = front ++ thread :: back ->
    threads.program thread = .done result ->
      ShowsResult result
        ((database.run resolve (front.map statements)).1.execute resolve
          (statements thread)).2
  /-- The others have not returned, or have reported a failure. -/
  failed : forall thread result, thread ∉ order ->
    threads.program thread = .done result -> result.ok = false

/--
Calls on one table are linearizable: in every run there is an order of the calls, which
only grows, in which the database gives all the answers that have been given, and for
whose end the files and the index stand.
-/
theorem calls_linearize {ι : Type} [DecidableEq ι] {calls : ι -> EngineCall}
    {statements : ι -> Statement} {schemaDir : SchemaDir} {resolve : Bytes -> Option Bytes}
    {database : Database} {shared : EngineShared} {storageName : Bytes}
    (hkeys : shared.lockManager.keys.Nodup)
    (hplain : forall thread, PlainCall schemaDir (calls thread) (statements thread))
    (hnames : forall thread, (calls thread).Names shared.memory.dataDir storageName)
    (hhooks : shared.hooks.forcedNextError = .none)
    (hstart : Represents schemaDir resolve (engineOf shared.memory) database)
    {earlier later : Threads ι EngineLock IndexPointer EngineShared SqlEngineAdapterResult}
    (hreach : (engineCalls calls shared).Reachable earlier)
    (hrun : (engineCalls calls shared).Runs earlier later) :
    Linearized calls statements schemaDir resolve database earlier (lockOrder earlier) ∧
      Linearized calls statements schemaDir resolve database later (lockOrder later) ∧
      lockOrder earlier <+: lockOrder later := by
  have hall : forall {threads : Threads ι EngineLock IndexPointer EngineShared
      SqlEngineAdapterResult}, (engineCalls calls shared).Reachable threads ->
        Linearized calls statements schemaDir resolve database threads
          (lockOrder threads) := by
    intro threads hreach
    have h := @Guarding.guarded_reachable _ _ _ _ _ _ _
      (tableGuarding shared.memory.dataDir storageName) _ _
      (fun thread => (calls thread).onPart) (fun _ result => result.ok = false)
      (fun thread => (calls thread).program) shared (sameHeaders_refl _) hkeys
      (fun thread => (hplain thread).seeks (hnames thread) shared.lockManager) threads hreach
    have hserial := fun front => @serialWorld_refines ι schemaDir resolve calls statements
      hplain front (worldOf (shared.memory, shared.hooks)) database hstart hhooks
    constructor
    · exact h.waiting.nodup
    · intro hfree
      have hpart := h.part_of_free fun key hkey => by
        cases key with
        | table entry => exact hfree entry
        | manager => cases hkey
        | registry => cases hkey
        | testHook => cases hkey
      have hengine : engineOf threads.shared.memory =
          (serialWorld calls (worldOf (shared.memory, shared.hooks))
            (lockOrder threads)).engine :=
        congrArg World.engine ((congrArg worldOf hpart).trans (serially_worldOf _ _))
      rw [hengine]
      exact (hserial (lockOrder threads)).1
    · intro front thread back result horder hdone
      have hresult := h.result_at horder hdone
      rw [hresult, ((calls thread).onPart_alone _).2, serially_worldOf]
      exact ((hplain thread).refines (hserial front).1 (hserial front).2).1
    · exact fun thread result hout hdone => h.refused_of_done hout hdone
  refine ⟨hall hreach, hall ?_, lockOrder_grows hrun⟩
  rcases hreach with ⟨first, hfirst, hbefore⟩
  exact ⟨first, hfirst, hbefore.trans hrun⟩

def sampleStatements (thread : Fin 2) : Statement :=
  if thread.val = 0 then .insertStatement (sampleInsert (ascii "d"))
  else .selectStatement (selectAllFrom (ascii "t"))

def sampleCalls (thread : Fin 2) : EngineCall :=
  if thread.val = 0 then
    { sampleCall with sql := some (ascii "INSERT INTO t (name) VALUES ('d');") }
  else sampleCall

def sampleRowsShared : EngineShared :=
  { sampleShared with memory := memoryOf (startState sampleRowsDir) fun _ => [] }

theorem sampleCalls_plain (thread : Fin 2) :
    PlainCall sampleSchemaDir (sampleCalls thread) (sampleStatements thread) := by
  unfold sampleCalls sampleStatements
  split
  · exact
      { prepared := by decide +kernel
        directory := rfl
        plain := sampleInsert_plain (by decide) (by decide) (by decide)
        faults := rfl
        tmpfile := rfl
        capture := rfl }
  · exact
      { prepared := sampleCall_prepared
        directory := rfl
        plain := .inl rfl
        faults := rfl
        tmpfile := rfl
        capture := rfl }

theorem sampleCalls_names (thread : Fin 2) :
    (sampleCalls thread).Names sampleRowsShared.memory.dataDir (ascii "t") := by
  intro statement schema _ hschema
  rw [(sampleCalls_plain thread).directory] at hschema
  rw [(loadSchema_sample hschema).2]
  rfl

theorem calls_linearize_sample :
    exists database earlier later,
      Represents sampleSchemaDir (resolveTable sampleSchemaDir sampleRowsDir)
          (startState sampleRowsDir) database ∧
        (engineCalls sampleCalls sampleRowsShared).Reachable earlier ∧
        (engineCalls sampleCalls sampleRowsShared).Runs earlier later ∧
        lockOrder earlier = [0] ∧ lockOrder later = [0, 1] ∧
        (forall thread, (later.program thread).Returned) ∧
        Linearized sampleCalls sampleStatements sampleSchemaDir
          (resolveTable sampleSchemaDir sampleRowsDir) database later
          (lockOrder later) := by
  have hstart : (engineCalls sampleCalls sampleRowsShared).Reachable
      (startThreads (fun thread => (sampleCalls thread).program) sampleRowsShared) :=
    ⟨_, rfl, .refl⟩
  have hrun : ((startThreads (fun thread => (sampleCalls thread).program)
      sampleRowsShared).advances contendedSchedule).map (fun threads =>
        (lockOrder threads,
          (threads.advances (List.replicate 26 0 ++ List.replicate 10 1)).map
            (fun threads => (lockOrder threads,
              decide (forall thread, (threads.program thread).Returned))))) =
      some ([0], some ([0, 1], true)) := by
    decide +kernel
  rcases Option.map_eq_some_iff.mp hrun with ⟨earlier, hadvances, hseen⟩
  rw [Prod.mk.injEq] at hseen
  rcases Option.map_eq_some_iff.mp hseen.2 with ⟨later, hmore, hend⟩
  rw [Prod.mk.injEq, decide_eq_true_eq] at hend
  rcases exists_database sample_readableTables with ⟨database, hdatabase⟩
  have hreach := reachable_of_advances hstart hadvances
  have hruns : (engineCalls sampleCalls sampleRowsShared).Runs earlier later :=
    runs_of_advances hmore
  have hlinear := @calls_linearize (Fin 2) _ sampleCalls sampleStatements sampleSchemaDir _
    database sampleRowsShared (ascii "t") List.nodup_nil sampleCalls_plain sampleCalls_names
    rfl hdatabase _ _ hreach hruns
  exact ⟨database, earlier, later, hdatabase, hreach, hruns, hseen.1, hend.1, hend.2,
    hlinear.2.1⟩

end Engine
end SqlCsvServer
