import SqlCsvServer.Execution.IndexRun
import SqlCsvServer.Index.PointerRuns

/-!
# The ids of one INSERT after another

A loaded entry says which id is next.  An INSERT that reports success got that id and
leaves the one behind it; a SELECT on the same table leaves the entry as it stands.
-/

namespace SqlCsvServer
namespace Execution

open Foundation Common Storage Index Sql

def NextIdIs (state : EngineState) (storageName : Bytes) (id : Int) : Prop :=
  exists slot entry,
    findTableIndex state.index.registry.items storageName = some (slot, entry) ∧
      entry.loaded = true ∧ entry.nextId = id

section Ids

variable {schemaDir : SchemaDir} {state : EngineState} {schema : Schema}
  {nextId : Int}

theorem anyEntry_invariant (dataDir : DataDir) :
    EntryInvariant dataDir fun _ _ => True where
  created := fun _ => trivial
  unloaded := fun _ _ => trivial
  rebuilt := fun _ _ _ _ => trivial

theorem NextIdIs.ensureLoaded (h : NextIdIs state schema.storageName nextId)
    (dataDir : DataDir) (available : Option Nat) :
    exists slot entry, entry.nextId = nextId ∧
      Index.ensureLoaded dataDir schema state.index.registry available =
        (state.index.registry, .ok (slot, entry), available) := by
  rcases h with ⟨slot, entry, hfound, hloaded, hid⟩
  refine ⟨slot, entry, hid, ?_⟩
  rw [ensureLoaded_of_loaded hfound hloaded, writeEntry_self hfound]

theorem NextIdIs.assignedId {statement : InsertStatement}
    (h : NextIdIs state schema.storageName nextId)
    (hschema : loadSchema schemaDir state.dataDir statement.tableName = .ok schema)
    (faults : Faults) :
    Execution.assignedId schemaDir statement faults state = some nextId := by
  rcases h.ensureLoaded state.dataDir faults.memory with ⟨slot, entry, hid, hload⟩
  unfold Execution.assignedId tableIndexGetNextId
  simp only [hschema, hload, hid]

theorem NextIdIs.selectTable {statement : SelectStatement}
    (h : NextIdIs state schema.storageName nextId)
    (hschema : loadSchema schemaDir state.dataDir statement.tableName = .ok schema)
    (memory : Option Nat) :
    (Execution.selectTable schemaDir statement memory state).1 = state := by
  rcases h.ensureLoaded state.dataDir memory with ⟨slot, entry, _, hload⟩
  unfold Execution.selectTable
  simp only [hschema]
  split
  · rfl
  · rfl
  · split
    · rfl
    · split
      · unfold indexSelectRows tableIndexFindRow
        simp only [hload]
        split
        · rfl
        · cases bptreeSearch entry.tree _ <;> rfl
      · rfl

theorem appendAndRegister_nextId {row : List Bytes} {append : Option AppendFault}
    {available : Option Nat} (h : NextIdIs state schema.storageName nextId)
    (hok : (appendAndRegister schema nextId row append state available).2.ok = true) :
    NextIdIs (appendAndRegister schema nextId row append state available).1
      schema.storageName (nextId + 1) := by
  rcases h with ⟨slot, entry, hfound, hloaded, rfl⟩
  unfold appendAndRegister at hok ⊢
  generalize appendRowCsv state.dataDir schema.storageName row append = appended at hok ⊢
  rcases appended with ⟨dataDir, storageResult⟩
  by_cases happend : storageResult.ok = true
  · simp only [happend, if_true] at hok ⊢
    rw [tableIndexRegisterRow_of_loaded hfound hloaded] at hok ⊢
    by_cases hforced : state.index.forceNextRegisterFailure = true
    · rw [if_pos hforced] at hok
      cases hok
    · rw [if_neg hforced] at hok ⊢
      rcases hregister : registerInEntry entry entry.nextId storageResult.rowOffset
        available with ⟨written, _ | text, left⟩
      · have hwritten := registerInEntry_ok (congrArg (fun found => found.2.1) hregister)
        rw [hregister] at hwritten
        simp only at hwritten
        subst hwritten
        refine ⟨slot, registeredEntry entry storageResult.rowOffset, ?_, hloaded, rfl⟩
        have hname : entry.tableName = schema.storageName := findTableIndex_tableName hfound
        have hset := @findTableIndex_set _ _ _ _ hfound
          (registeredEntry entry storageResult.rowOffset) hname schema.storageName
        rwa [if_pos rfl] at hset
      · rw [hregister] at hok
        cases hok
  · simp only [happend] at hok
    cases hok

theorem executeInsert_nextId {statement : InsertStatement} {faults : Faults}
    (hschema : loadSchema schemaDir state.dataDir statement.tableName = .ok schema)
    (hok : (executeInsert schemaDir statement faults state).2.ok = true) :
    exists id, assignedId schemaDir statement faults state = some id ∧
      NextIdIs (executeInsert schemaDir statement faults state).1 schema.storageName
        (id + 1) := by
  unfold executeInsert assignedId at *
  simp only [hschema] at hok ⊢
  cases hvalid : validateInsertColumns statement schema with
  | some text =>
      rw [hvalid] at hok
      cases hok
  | none =>
      rw [hvalid] at hok
      rcases hnext : tableIndexGetNextId state.dataDir schema state.index faults.memory
        with ⟨index, result, available⟩
      rcases tableIndexGetNextId_cases (anyEntry_invariant state.dataDir)
        (fun _ _ _ => trivial) hnext with ⟨_, _, hid⟩
      rw [hnext] at hok
      cases result with
      | error text => cases hok
      | ok id =>
          simp only at hok ⊢
          refine ⟨id, rfl, ?_⟩
          cases hrow : buildInsertRow statement schema with
          | error text =>
              rw [hrow] at hok
              cases hok
          | ok row =>
              rw [hrow] at hok
              exact appendAndRegister_nextId
                (show NextIdIs { state with index := index } _ id from hid id rfl) hok

end Ids

end Execution
end SqlCsvServer
