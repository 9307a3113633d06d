import SqlCsvServer.Index.Rebuild

/-!
# What the index says about a table

An entry that is loaded answers from its tree; one that is missing or not loaded
is rebuilt first and answers from the file.  `tableView` is that answer.
Loading an entry does not change it, so it does not matter who loads first.
-/

namespace SqlCsvServer
namespace Index

open Foundation Common Storage

/-- A tree and the next id. -/
structure TableView where
  tree : BPlusTree
  nextId : Int

/-- What a rebuild with unlimited memory gives. -/
def rebuiltView (dataDir : DataDir) (name : Bytes) : Except Bytes TableView :=
  match scanRowsCsv dataDir name rebuildRow (rebuildStart none) with
  | (_, some error) => .error error
  | (rebuild, none) => .ok { tree := rebuild.tree, nextId := rebuild.nextId }

def entryView (dataDir : DataDir) (name : Bytes) (entry : TableIndex) :
    Except Bytes TableView :=
  if entry.loaded then .ok { tree := entry.tree, nextId := entry.nextId }
  else rebuiltView dataDir name

/-- What the registry answers for a name. -/
def tableView (dataDir : DataDir) (registry : TableIndexRegistry)
    (name : Bytes) : Except Bytes TableView :=
  match entryOf registry name with
  | none => rebuiltView dataDir name
  | some entry => entryView dataDir name entry

theorem entryView_of_loaded {dataDir : DataDir} {name : Bytes}
    {entry : TableIndex} (h : entry.loaded = true) :
    entryView dataDir name entry =
      .ok { tree := entry.tree, nextId := entry.nextId } :=
  if_pos h

theorem entryView_of_unloaded {dataDir : DataDir} {name : Bytes}
    {entry : TableIndex} (h : entry.loaded = false) :
    entryView dataDir name entry = rebuiltView dataDir name := by
  simp [entryView, h]

theorem tableView_of_find {dataDir : DataDir} {registry : TableIndexRegistry}
    {name : Bytes} {slot : Nat} {entry : TableIndex}
    (h : findTableIndex registry.items name = some (slot, entry)) :
    tableView dataDir registry name = entryView dataDir name entry := by
  simp [tableView, entryOf, h]

theorem rebuiltView_congr {a b : DataDir} {name : Bytes}
    (hpath : a.path = b.path) (hfile : a.files name = b.files name) :
    rebuiltView a name = rebuiltView b name := by
  unfold rebuiltView scanRowsCsv openTableFile
  rw [hpath, hfile]

theorem tableView_congr {a b : DataDir} {name : Bytes}
    (hpath : a.path = b.path) (hfile : a.files name = b.files name)
    (registry : TableIndexRegistry) :
    tableView a registry name = tableView b registry name := by
  unfold tableView entryView
  rw [rebuiltView_congr hpath hfile]

section Loading

variable {dataDir : DataDir} {name : Bytes} {registry : TableIndexRegistry}

theorem rebuiltView_of_scan {available : Option Nat}
    (h :
      (scanRowsCsv dataDir name rebuildRow (rebuildStart available)).2 = none) :
    rebuiltView dataDir name =
      .ok
        { tree :=
            (scanRowsCsv dataDir name rebuildRow (rebuildStart available)).1.tree
          nextId :=
            (scanRowsCsv dataDir name rebuildRow
              (rebuildStart available)).1.nextId } := by
  rcases scanRowsCsv_rebuild_ok h with
    ⟨file, rows, hfile, hne, hrows, htree, hnext⟩
  unfold rebuiltView
  rw [scanRowsCsv_rebuild hfile hne hrows, htree, hnext]

theorem scan_of_rebuiltView {view : TableView}
    (h : rebuiltView dataDir name = .ok view) :
    (scanRowsCsv dataDir name rebuildRow (rebuildStart none)).2 = none := by
  unfold rebuiltView at h
  rcases hscan : scanRowsCsv dataDir name rebuildRow (rebuildStart none) with
    ⟨rebuild, error | error⟩
  · rfl
  · rw [hscan] at h
    cases h

theorem loadEntry_view (entry : TableIndex) (available : Option Nat) :
    entryView dataDir name (loadEntry dataDir name entry available).1 =
        entryView dataDir name entry ∧
      (loadEntry dataDir name entry available).1.tableName = entry.tableName ∧
      ((loadEntry dataDir name entry available).2.1 = none ->
        (loadEntry dataDir name entry available).1.loaded = true) := by
  unfold loadEntry
  by_cases hloaded : entry.loaded = true
  · simp [hloaded]
  · have hunloaded : entry.loaded = false := by simpa using hloaded
    rw [entryView_of_unloaded hunloaded]
    simp only [hloaded]
    cases hscan :
        scanRowsCsv dataDir name rebuildRow (rebuildStart available) with
    | mk rebuild error =>
        cases error with
        | some error =>
            refine ⟨entryView_of_unloaded rfl, rfl, ?_⟩
            intro h
            simp at h
        | none =>
            have hview := @rebuiltView_of_scan dataDir name available
              (by rw [hscan])
            rw [hscan] at hview
            exact ⟨hview.symm, rfl, fun _ => rfl⟩

theorem loadEntry_unlimited (entry : TableIndex) :
    (forall error, (loadEntry dataDir name entry none).2.1 = some error ->
        entryView dataDir name entry = .error error) ∧
      ((loadEntry dataDir name entry none).2.1 = none ->
        (loadEntry dataDir name entry none).2.2 = none) := by
  unfold loadEntry
  by_cases hloaded : entry.loaded = true
  · simp [hloaded]
  · have hunloaded : entry.loaded = false := by simpa using hloaded
    rw [entryView_of_unloaded hunloaded]
    simp only [hloaded]
    unfold rebuiltView
    cases hscan : scanRowsCsv dataDir name rebuildRow (rebuildStart none) with
    | mk rebuild error =>
        cases error with
        | some error => simp
        | none =>
            rcases scanRowsCsv_rebuild_ok (by rw [hscan]) with
              ⟨file, rows, hfile, hne, hrows, _, _⟩
            rw [scanRowsCsv_rebuild hfile hne hrows] at hscan
            simp only [Prod.mk.injEq, and_true] at hscan
            simp [← hscan]

theorem getOrCreateTableIndex_unlimited (registry : TableIndexRegistry)
    (name : Bytes) :
    exists created slot entry,
      getOrCreateTableIndex registry name none =
        (created, .ok (slot, entry), none) := by
  unfold getOrCreateTableIndex
  cases findTableIndex registry.items name with
  | some existing => exact ⟨_, _, _, rfl⟩
  | none =>
      simp only [allocate]
      split <;> exact ⟨_, _, _, rfl⟩

theorem getOrCreateTableIndex_view {available : Option Nat}
    {after : TableIndexRegistry} {result : Except Bytes (Nat × TableIndex)}
    {left : Option Nat}
    (h : getOrCreateTableIndex registry name available = (after, result, left))
    (other : Bytes) :
    tableView dataDir after other = tableView dataDir registry other := by
  rcases getOrCreateTableIndex_cases h with
    ⟨slot, entry, _, hfound, hentry, hothers⟩ | ⟨error, _, hitems⟩
  · by_cases hother : other = name
    · rw [hother, tableView_of_find hfound, hentry]
      unfold tableView
      cases entryOf registry name with
      | none => exact entryView_of_unloaded rfl
      | some old => rfl
    · unfold tableView
      rw [hothers other hother]
  · unfold tableView entryOf
    rw [hitems]

theorem tableView_writeEntry {slot : Nat} {entry written : TableIndex}
    (hfound : findTableIndex registry.items name = some (slot, entry))
    (hwritten : written.tableName = name) (other : Bytes) :
    tableView dataDir (writeEntry registry slot written) other =
      if other = name then entryView dataDir name written
      else tableView dataDir registry other := by
  unfold tableView
  rw [entryOf_writeEntry hfound hwritten]
  by_cases hother : other = name
  · simp [hother]
  · simp [hother]

theorem ensureLoaded_view {schema : Schema} {available : Option Nat}
    {after : TableIndexRegistry} {result : Except Bytes (Nat × TableIndex)}
    {left : Option Nat}
    (h : ensureLoaded dataDir schema registry available = (after, result, left)) :
    (forall other,
        tableView dataDir after other = tableView dataDir registry other) ∧
      forall slot entry, result = .ok (slot, entry) ->
        findTableIndex after.items schema.storageName = some (slot, entry) ∧
          entry.loaded = true ∧
          tableView dataDir registry schema.storageName =
            .ok { tree := entry.tree, nextId := entry.nextId } := by
  unfold ensureLoaded at h
  rcases hcreate :
      getOrCreateTableIndex registry schema.storageName available with
    ⟨created, found, memory⟩
  have hcreated := @getOrCreateTableIndex_view dataDir _ _ _ _ _ _ hcreate
  rw [hcreate] at h
  rcases getOrCreateTableIndex_cases hcreate with
    ⟨slot, entry, rfl, hfound, _, _⟩ | ⟨error, rfl, _⟩
  · have hload := @loadEntry_view dataDir schema.storageName entry memory
    have hname := findTableIndex_tableName hfound
    rcases hloaded : loadEntry dataDir schema.storageName entry memory with
      ⟨loaded, error, rest⟩
    simp only [hloaded] at h hload
    have hwritten := hload.2.1.trans hname
    have hviews : forall other,
        tableView dataDir (writeEntry created slot loaded) other =
          tableView dataDir registry other := by
      intro other
      rw [tableView_writeEntry hfound hwritten, ← hcreated other]
      by_cases hother : other = schema.storageName
      · rw [if_pos hother, hother, tableView_of_find hfound, hload.1]
      · rw [if_neg hother]
    cases error with
    | some error =>
        simp only [Prod.mk.injEq] at h
        rcases h with ⟨rfl, rfl, _⟩
        exact ⟨hviews, fun slot entry hok => by cases hok⟩
    | none =>
        simp only [Prod.mk.injEq] at h
        rcases h with ⟨rfl, rfl, _⟩
        refine ⟨hviews, ?_⟩
        intro slot' entry' hok
        simp only [Except.ok.injEq, Prod.mk.injEq] at hok
        rcases hok with ⟨rfl, rfl⟩
        refine ⟨?_, hload.2.2 rfl, ?_⟩
        · unfold writeEntry
          rw [findTableIndex_set hfound hwritten, if_pos rfl]
        · rw [← hcreated schema.storageName, tableView_of_find hfound,
            ← hload.1, entryView_of_loaded (hload.2.2 rfl)]
  · simp only [Prod.mk.injEq] at h
    rcases h with ⟨rfl, rfl, _⟩
    exact ⟨hcreated, fun slot entry hok => by cases hok⟩

theorem ensureLoaded_view_unlimited {schema : Schema}
    {after : TableIndexRegistry} {result : Except Bytes (Nat × TableIndex)}
    {left : Option Nat}
    (h : ensureLoaded dataDir schema registry none = (after, result, left)) :
    (forall error, result = .error error ->
        tableView dataDir registry schema.storageName = .error error) ∧
      (forall found, result = .ok found -> left = none) := by
  unfold ensureLoaded at h
  rcases getOrCreateTableIndex_unlimited registry schema.storageName with
    ⟨created, slot, entry, hcreate⟩
  have hcreated := @getOrCreateTableIndex_view dataDir _ _ _ _ _ _ hcreate
  rw [hcreate] at h
  rcases getOrCreateTableIndex_cases hcreate with
    ⟨slot', entry', hok, hfound, _, _⟩ | ⟨error, herror, _⟩
  · simp only [Except.ok.injEq, Prod.mk.injEq] at hok
    rcases hok with ⟨rfl, rfl⟩
    have hload := @loadEntry_unlimited dataDir schema.storageName entry
    rcases hloaded : loadEntry dataDir schema.storageName entry none with
      ⟨loaded, error, rest⟩
    simp only [hloaded] at h hload
    cases error with
    | some error =>
        simp only [Prod.mk.injEq] at h
        rcases h with ⟨_, rfl, _⟩
        constructor
        · intro text htext
          simp only [Except.error.injEq] at htext
          rw [← htext, ← hcreated schema.storageName, tableView_of_find hfound]
          exact hload.1 error rfl
        · intro found hfalse
          cases hfalse
    | none =>
        simp only [Prod.mk.injEq] at h
        rcases h with ⟨_, rfl, rfl⟩
        constructor
        · intro error hfalse
          cases hfalse
        · intro found _
          exact hload.2 rfl
  · cases herror

end Loading

end Index
end SqlCsvServer
