import Mathlib.Tactic.Ring
import SqlCsvServer.Index.TableIndex

/-!
# Rebuilding and looking up index entries

A rebuild numbers the data lines of a file from 1 on and stores the offset of
each under its number.  The first part computes the tree this gives and what a
search in it finds; the second describes `ensure_loaded` as a change of one
entry of the registry.
-/

namespace SqlCsvServer
namespace Index

open Foundation Common Storage

/-!
## Numbered rows
-/

section Numbered

variable {α β : Type}

def numbered : Int -> List (Nat × α) -> List (Int × Int)
  | _, [] => []
  | id, row :: rows => (id, (row.1 : Int)) :: numbered (id + 1) rows

theorem numbered_append (id : Int) (a b : List (Nat × α)) :
    numbered id (a ++ b) = numbered id a ++ numbered (id + a.length) b := by
  induction a generalizing id with
  | nil => simp [numbered]
  | cons row a ih =>
      have hshift : id + 1 + (a.length : Int) = id + ((a.length : Int) + 1) := by
        omega
      simp [numbered, ih, hshift]

theorem numbered_key_range {id : Int} {rows : List (Nat × α)} {e : Int × Int}
    (h : e ∈ numbered id rows) : id ≤ e.1 ∧ e.1 < id + rows.length := by
  induction rows generalizing id with
  | nil => simp [numbered] at h
  | cons row rows ih =>
      rw [List.length_cons]
      rcases List.mem_cons.mp h with h | h
      · rw [h]
        omega
      · have hrange := ih h
        omega

theorem numbered_lookup (id : Int) (rows : List (Nat × α)) (key : Int) :
    (numbered id rows).lookup key =
      if id ≤ key then (rows[(key - id).toNat]?).map (fun row => (row.1 : Int))
      else none := by
  induction rows generalizing id with
  | nil => simp [numbered]
  | cons row rows ih =>
      rw [numbered, List.lookup_cons, ih]
      by_cases hkey : key = id
      · subst hkey
        simp
      · have hbeq : (key == id) = false := by simpa using hkey
        rw [hbeq]
        by_cases hle : id ≤ key
        · have hnext : id + 1 ≤ key := by omega
          have hindex : (key - id).toNat = (key - (id + 1)).toNat + 1 := by
            omega
          simp [hle, hnext, hindex]
        · have hnext : ¬ id + 1 ≤ key := by omega
          simp [hle, hnext]

theorem numbered_congr {id : Int} {a : List (Nat × α)} {b : List (Nat × β)}
    {R : Nat × α -> Nat × β -> Prop} (hR : forall x y, R x y -> x.1 = y.1)
    (h : List.Forall₂ R a b) : numbered id a = numbered id b := by
  induction h generalizing id with
  | nil => rfl
  | cons hxy _ ih => rw [numbered, numbered, hR _ _ hxy, ih]

def treeOfRows (rows : List (Nat × α)) : BPlusTree :=
  bptreeInsertAll bptreeInit (numbered 1 rows)

def nextIdOfRows (rows : List (Nat × α)) : Int :=
  rows.length + 1

theorem bptreeSearch_treeOfRows (rows : List (Nat × α)) (key : Int) :
    bptreeSearch (treeOfRows rows) key =
      if 1 ≤ key then (rows[(key - 1).toNat]?).map (fun row => (row.1 : Int))
      else none := by
  rcases bptreeInsertAll_holds (numbered 1 rows) with ⟨held, hholds, hlookup⟩
  unfold treeOfRows
  rw [bptreeSearch_eq_lookup hholds, hlookup, numbered_lookup]

theorem bptreeInsert_new_key {inserts : List (Int × Int)} {key : Int}
    (hnew : forall e, e ∈ inserts -> e.1 < key) (value : Int) :
    (bptreeInsert (bptreeInsertAll bptreeInit inserts) key value none).error =
      none := by
  rcases bptreeInsertAll_holds inserts with ⟨held, hholds, hlookup⟩
  rcases bptreeInsert_unlimited_outcome hholds key value with
    hok | ⟨_, hbound, _⟩
  · exact hok.1
  · exfalso
    have habsent : inserts.lookup key = none := by
      rw [KeyedList.lookup_eq_none_iff_not_bound]
      rintro ⟨e, he, hkey⟩
      have hlt := hnew e he
      omega
    rw [← hlookup, KeyedList.lookup_eq_none_iff_not_bound] at habsent
    exact habsent hbound

theorem treeOfRows_append_one (rows : List (Nat × α)) (row : Nat × α) :
    treeOfRows (rows ++ [row]) =
      (bptreeInsert (treeOfRows rows) (nextIdOfRows rows) row.1 none).tree := by
  have hid : 1 + (rows.length : Int) = nextIdOfRows rows := by
    unfold nextIdOfRows
    omega
  unfold treeOfRows
  rw [numbered_append, numbered, numbered, bptreeInsertAll_append, hid]

end Numbered

/-!
## The rebuild
-/

theorem rebuildRow_inserted {fields : List Bytes} {rowOffset : Int}
    {rebuild : RebuildContext}
    (h :
      (bptreeInsert rebuild.tree rebuild.nextId rowOffset
        rebuild.available).error = none) :
    rebuildRow fields rowOffset rebuild =
      ({ tree :=
           (bptreeInsert rebuild.tree rebuild.nextId rowOffset
             rebuild.available).tree
         nextId := rebuild.nextId + 1
         available :=
           (bptreeInsert rebuild.tree rebuild.nextId rowOffset
             rebuild.available).available }, none) := by
  simp [rebuildRow, h]

theorem rebuildRow_failed (fields : List Bytes) {rowOffset : Int}
    {rebuild : RebuildContext} {error : Bytes}
    (h :
      (bptreeInsert rebuild.tree rebuild.nextId rowOffset
        rebuild.available).error = some error) :
    (rebuildRow fields rowOffset rebuild).2 = some error := by
  simp [rebuildRow, h]

theorem visitRows_rebuildRow_ok {rows : List (Nat × List Bytes)} :
    forall {rebuild : RebuildContext},
      (visitRows rebuildRow rows rebuild).2 = none ->
        (visitRows rebuildRow rows rebuild).1.tree =
            bptreeInsertAll rebuild.tree (numbered rebuild.nextId rows) ∧
          (visitRows rebuildRow rows rebuild).1.nextId =
            rebuild.nextId + rows.length := by
  induction rows with
  | nil =>
      intro rebuild _
      exact ⟨rfl, by simp [visitRows]⟩
  | cons row rows ih =>
      intro rebuild h
      rcases row with ⟨offset, fields⟩
      cases herror :
          (bptreeInsert rebuild.tree rebuild.nextId offset
            rebuild.available).error with
      | some error =>
          have hrow := rebuildRow_failed fields herror
          rw [visitRows] at h
          split at h
          · simp at h
          · rename_i hvisit
            rw [hvisit] at hrow
            simp at hrow
      | none =>
          rw [visitRows, rebuildRow_inserted herror] at h ⊢
          rcases ih h with ⟨htree, hnext⟩
          have hunlimited := bptreeInsert_ok_unlimited herror
          refine ⟨?_, ?_⟩
          · rw [htree]
            simp [numbered, bptreeInsertAll, hunlimited.2]
          · rw [hnext, List.length_cons]
            push_cast
            ring

theorem visitRows_rebuildRow_unlimited {rows : List (Nat × List Bytes)} :
    forall {inserts : List (Int × Int)} {id : Int},
      (forall e, e ∈ inserts -> e.1 < id) ->
        visitRows rebuildRow rows
            { tree := bptreeInsertAll bptreeInit inserts
              nextId := id
              available := none } =
          ({ tree := bptreeInsertAll bptreeInit (inserts ++ numbered id rows)
             nextId := id + rows.length
             available := none }, none) := by
  induction rows with
  | nil =>
      intro inserts id _
      simp [visitRows, numbered]
  | cons row rows ih =>
      intro inserts id hnew
      rcases row with ⟨offset, fields⟩
      have herror := bptreeInsert_new_key hnew (offset : Int)
      have hmore : forall e, e ∈ inserts ++ [(id, (offset : Int))] ->
          e.1 < id + 1 := by
        intro e he
        rcases List.mem_append.mp he with he | he
        · have hlt := hnew e he
          omega
        · rw [List.mem_singleton.mp he]
          omega
      have hrest := ih hmore
      rw [bptreeInsertAll_append] at hrest
      rw [visitRows, rebuildRow_inserted herror]
      simp only [bptreeInsert_available_none]
      rw [hrest]
      have hlength :
          id + 1 + (rows.length : Int) = id + ((rows.length : Int) + 1) := by
        omega
      simp [numbered, hlength]

section File

variable {dataDir : DataDir} {storageName : Bytes} {file : CsvFile}

theorem scanRowsCsv_rebuild (hfile : dataDir.files storageName = .ok file)
    (hne : file.contents ≠ []) {rows : List (Nat × List Bytes)}
    (hrows : parseLines (dataLines file.contents) = .ok rows) :
    scanRowsCsv dataDir storageName rebuildRow (rebuildStart none) =
      ({ tree := treeOfRows (dataLines file.contents)
         nextId := nextIdOfRows (dataLines file.contents)
         available := none }, none) := by
  have hvisit :=
    @visitRows_rebuildRow_unlimited rows [] 1 (by simp)
  have hnumbered :
      numbered 1 (dataLines file.contents) = numbered 1 rows :=
    numbered_congr (fun _ _ h => h.1) (parseLines_forall hrows)
  have hlength : 1 + (rows.length : Int) = (dataLines file.contents).length + 1 := by
    rw [parseLines_length hrows]
    omega
  unfold scanRowsCsv openTableFile
  simp only [hfile]
  rw [scanRows_of_parseLines rebuildRow hne hrows]
  unfold treeOfRows nextIdOfRows
  rw [hnumbered, ← hlength]
  exact hvisit

theorem scanRowsCsv_rebuild_ok {available : Option Nat}
    (h :
      (scanRowsCsv dataDir storageName rebuildRow
        (rebuildStart available)).2 = none) :
    exists (file : CsvFile) (rows : List (Nat × List Bytes)),
      dataDir.files storageName = .ok file ∧ file.contents ≠ [] ∧
        parseLines (dataLines file.contents) = .ok rows ∧
        (scanRowsCsv dataDir storageName rebuildRow
            (rebuildStart available)).1.tree =
          treeOfRows (dataLines file.contents) ∧
        (scanRowsCsv dataDir storageName rebuildRow
            (rebuildStart available)).1.nextId =
          nextIdOfRows (dataLines file.contents) := by
  unfold scanRowsCsv openTableFile at h ⊢
  cases hfile : dataDir.files storageName with
  | error errno => simp [hfile] at h
  | ok file =>
      simp only [hfile] at h ⊢
      rcases parseLines_of_scanRows rebuildRow h with ⟨hne, rows, hrows⟩
      rw [scanRows_of_parseLines rebuildRow hne hrows] at h ⊢
      rcases visitRows_rebuildRow_ok h with ⟨htree, hnext⟩
      have hnumbered :
          numbered 1 (dataLines file.contents) = numbered 1 rows :=
        numbered_congr (fun _ _ h => h.1) (parseLines_forall hrows)
      refine ⟨file, rows, rfl, hne, hrows, ?_, ?_⟩
      · rw [htree, treeOfRows, hnumbered]
        rfl
      · rw [hnext, nextIdOfRows, ← parseLines_length hrows]
        show (1 : Int) + rows.length = rows.length + 1
        omega

end File

/-!
## The entry of a name
-/

section Entries

variable {items : List TableIndex} {tableName : Bytes} {slot : Nat}
  {entry : TableIndex}

theorem findTableIndex_tableName
    (h : findTableIndex items tableName = some (slot, entry)) :
    entry.tableName = tableName := by
  induction items generalizing slot with
  | nil => simp [findTableIndex] at h
  | cons head items ih =>
      by_cases hname : head.tableName = tableName
      · simp only [findTableIndex, hname, if_true, Option.some.injEq,
          Prod.mk.injEq] at h
        rw [← h.2]
        exact hname
      · simp only [findTableIndex, hname, if_false, Option.map_eq_some_iff] at h
        rcases h with ⟨⟨i, found⟩, hfound, hpair⟩
        rcases Prod.mk.inj hpair with ⟨_, rfl⟩
        exact ih hfound

theorem findTableIndex_set
    (h : findTableIndex items tableName = some (slot, entry))
    {written : TableIndex} (hwritten : written.tableName = tableName)
    (other : Bytes) :
    findTableIndex (items.set slot written) other =
      if other = tableName then some (slot, written)
      else findTableIndex items other := by
  induction items generalizing slot with
  | nil => simp [findTableIndex] at h
  | cons head items ih =>
      by_cases hname : head.tableName = tableName
      · simp only [findTableIndex, hname, if_true, Option.some.injEq,
          Prod.mk.injEq] at h
        rcases h with ⟨rfl, rfl⟩
        by_cases hother : other = tableName
        · simp [findTableIndex, hother, hwritten]
        · have hne : tableName ≠ other := fun heq => hother heq.symm
          simp [findTableIndex, hother, hwritten, hname, hne]
      · simp only [findTableIndex, hname, if_false, Option.map_eq_some_iff] at h
        rcases h with ⟨⟨i, found⟩, hfound, hpair⟩
        rcases Prod.mk.inj hpair with ⟨rfl, rfl⟩
        have hrest := ih hfound
        by_cases hother : other = tableName
        · subst hother
          simp only [if_true] at hrest ⊢
          simp [findTableIndex, hname, hrest]
        · simp only [hother, if_false] at hrest ⊢
          simp [findTableIndex, hrest]

theorem findTableIndex_append {created : TableIndex}
    (h : findTableIndex items created.tableName = none) (other : Bytes) :
    findTableIndex (items ++ [created]) other =
      if other = created.tableName then some (items.length, created)
      else findTableIndex items other := by
  induction items with
  | nil =>
      by_cases hother : other = created.tableName
      · simp [findTableIndex, hother]
      · have hne : created.tableName ≠ other := fun heq => hother heq.symm
        simp [findTableIndex, hother, hne]
  | cons head items ih =>
      by_cases hname : head.tableName = created.tableName
      · simp [findTableIndex, hname] at h
      · simp only [findTableIndex, hname, if_false, Option.map_eq_none_iff] at h
        have hrest := ih h
        by_cases hother : other = created.tableName
        · subst hother
          simp only [if_true] at hrest ⊢
          simp [findTableIndex, hname, hrest]
        · simp only [hother, if_false] at hrest ⊢
          simp [findTableIndex, hrest]

end Entries

/-- The entry a registry holds for a name. -/
def entryOf (registry : TableIndexRegistry) (tableName : Bytes) :
    Option TableIndex :=
  (findTableIndex registry.items tableName).map Prod.snd

section Operations

variable {registry after : TableIndexRegistry} {tableName : Bytes}
  {available : Option Nat}

theorem entryOf_writeEntry {slot : Nat} {entry written : TableIndex}
    (h : findTableIndex registry.items tableName = some (slot, entry))
    (hwritten : written.tableName = tableName) (other : Bytes) :
    entryOf (writeEntry registry slot written) other =
      if other = tableName then some written else entryOf registry other := by
  unfold entryOf writeEntry
  rw [findTableIndex_set h hwritten]
  by_cases hother : other = tableName <;> simp [hother]

/--
What `get_or_create_table_index` leaves: the entries of all other names,
and under this name the entry found or a new one, unless memory ran out.
-/
theorem getOrCreateTableIndex_cases
    {result : Except Bytes (Nat × TableIndex)} {left : Option Nat}
    (h :
      getOrCreateTableIndex registry tableName available =
        (after, result, left)) :
    (exists slot entry,
      result = .ok (slot, entry) ∧
        findTableIndex after.items tableName = some (slot, entry) ∧
        entry = (entryOf registry tableName).getD (newTableIndex tableName) ∧
        forall other, other ≠ tableName ->
          entryOf after other = entryOf registry other) ∨
      (exists error,
        result = .error error ∧ after.items = registry.items) := by
  unfold getOrCreateTableIndex at h
  cases hfound : findTableIndex registry.items tableName with
  | some existing =>
      simp only [hfound, Prod.mk.injEq] at h
      rcases h with ⟨rfl, rfl, _⟩
      refine Or.inl ⟨existing.1, existing.2, rfl, hfound, ?_, fun _ _ => rfl⟩
      simp [entryOf, hfound]
  | none =>
      simp only [hfound] at h
      have hnew :
          findTableIndex (registry.items ++ [newTableIndex tableName])
              tableName =
            some (registry.items.length, newTableIndex tableName) := by
        rw [findTableIndex_append hfound]
        exact if_pos rfl
      have hother : forall other, other ≠ tableName ->
          findTableIndex (registry.items ++ [newTableIndex tableName]) other =
            findTableIndex registry.items other := by
        intro other hne
        rw [findTableIndex_append hfound]
        exact if_neg hne
      have hgetD :
          newTableIndex tableName =
            (entryOf registry tableName).getD (newTableIndex tableName) := by
        simp [entryOf, hfound]
      split at h
      · split at h
        · rcases Prod.mk.inj h with ⟨rfl, hrest⟩
          exact Or.inr ⟨_, (Prod.mk.inj hrest).1.symm, rfl⟩
        · split at h
          · rcases Prod.mk.inj h with ⟨rfl, hrest⟩
            exact Or.inr ⟨_, (Prod.mk.inj hrest).1.symm, rfl⟩
          · rcases Prod.mk.inj h with ⟨rfl, hrest⟩
            exact Or.inl ⟨_, _, (Prod.mk.inj hrest).1.symm, hnew, hgetD,
              fun other hne => by simp [entryOf, hother other hne]⟩
      · split at h
        · rcases Prod.mk.inj h with ⟨rfl, hrest⟩
          exact Or.inr ⟨_, (Prod.mk.inj hrest).1.symm, rfl⟩
        · rcases Prod.mk.inj h with ⟨rfl, hrest⟩
          exact Or.inl ⟨_, _, (Prod.mk.inj hrest).1.symm, hnew, hgetD,
            fun other hne => by simp [entryOf, hother other hne]⟩

end Operations

/-!
## Invariants of entries
-/

structure EntryInvariant (dataDir : DataDir)
    (P : Bytes -> TableIndex -> Prop) : Prop where
  created : forall name, P name (newTableIndex name)
  unloaded : forall name entry, P name (unloadedTableIndex entry)
  rebuilt : forall (name : Bytes) (entry : TableIndex) (available : Option Nat),
    (scanRowsCsv dataDir name rebuildRow (rebuildStart available)).2 = none ->
      P name
        { entry with
          loaded := true
          tree :=
            (scanRowsCsv dataDir name rebuildRow (rebuildStart available)).1.tree
          nextId :=
            (scanRowsCsv dataDir name rebuildRow
              (rebuildStart available)).1.nextId }

/-- Every entry of a registry satisfies a predicate. -/
def RegistryHolds (P : Bytes -> TableIndex -> Prop)
    (registry : TableIndexRegistry) : Prop :=
  forall name entry, entryOf registry name = some entry -> P name entry

section Loading

variable {dataDir : DataDir} {P : Bytes -> TableIndex -> Prop}
  {schema : Schema} {registry : TableIndexRegistry} {available : Option Nat}

theorem loadEntry_cases (available : Option Nat)
    (hP : EntryInvariant dataDir P) {name : Bytes}
    {entry : TableIndex} (hentry : P name entry) :
    P name (loadEntry dataDir name entry available).1 ∧
      (loadEntry dataDir name entry available).1.tableName = entry.tableName ∧
      ((loadEntry dataDir name entry available).2.1 = none ->
        (loadEntry dataDir name entry available).1.loaded = true) := by
  unfold loadEntry
  by_cases hloaded : entry.loaded = true
  · simp [hloaded, hentry]
  · simp only [hloaded]
    cases hscan : scanRowsCsv dataDir name rebuildRow (rebuildStart available) with
    | mk rebuild error =>
        cases error with
        | some error => simpa [unloadedTableIndex] using hP.unloaded name entry
        | none =>
            have hrebuilt := hP.rebuilt name entry available (by rw [hscan])
            rw [hscan] at hrebuilt
            simpa using hrebuilt

theorem registryHolds_writeEntry {name : Bytes} {slot : Nat}
    {entry written : TableIndex}
    (hothers : forall other held, other ≠ name ->
      entryOf registry other = some held -> P other held)
    (hfound : findTableIndex registry.items name = some (slot, entry))
    (hname : written.tableName = name) (hwritten : P name written) :
    RegistryHolds P (writeEntry registry slot written) := by
  intro other held hheld
  rw [entryOf_writeEntry hfound hname] at hheld
  by_cases hother : other = name
  · rw [if_pos hother, Option.some.injEq] at hheld
    rw [hother, ← hheld]
    exact hwritten
  · rw [if_neg hother] at hheld
    exact hothers other held hother hheld

theorem registryHolds_of_items {after : TableIndexRegistry}
    (hregistry : RegistryHolds P registry)
    (hitems : after.items = registry.items) : RegistryHolds P after := by
  intro name entry hentry
  unfold entryOf at hentry
  rw [hitems] at hentry
  exact hregistry name entry hentry

/--
`ensure_loaded` keeps an invariant of the entries, and the pointer it
returns is to the loaded entry of its table.
-/
theorem ensureLoaded_cases (hP : EntryInvariant dataDir P)
    (hregistry : RegistryHolds P registry) {after : TableIndexRegistry}
    {result : Except Bytes (Nat × TableIndex)} {left : Option Nat}
    (h : ensureLoaded dataDir schema registry available =
      (after, result, left)) :
    RegistryHolds P after ∧
      ((exists error, result = .error error) ∨
        exists slot entry,
          result = .ok (slot, entry) ∧ entry.loaded = true ∧
            findTableIndex after.items schema.storageName =
              some (slot, entry)) := by
  unfold ensureLoaded at h
  rcases hcreate :
      getOrCreateTableIndex registry schema.storageName available with
    ⟨created, found, memory⟩
  rw [hcreate] at h
  rcases getOrCreateTableIndex_cases hcreate with
    ⟨slot, entry, rfl, hfound, hentry, hother⟩ | ⟨error, rfl, hitems⟩
  · have hcreated : RegistryHolds P created := by
      intro name held hheld
      by_cases hname : name = schema.storageName
      · rw [hname] at hheld ⊢
        simp only [entryOf, hfound, Option.map_some, Option.some.injEq] at hheld
        rw [← hheld, hentry]
        cases hold : entryOf registry schema.storageName with
        | none => exact hP.created schema.storageName
        | some old => exact hregistry _ _ hold
      · rw [hother name hname] at hheld
        exact hregistry name held hheld
    have hholds : P schema.storageName entry :=
      hcreated _ _ (by simp [entryOf, hfound])
    have hload := loadEntry_cases memory hP hholds
    have hname := findTableIndex_tableName hfound
    rcases hloaded :
        loadEntry dataDir schema.storageName entry memory with
      ⟨loaded, error, rest⟩
    simp only [hloaded] at h hload
    have hwritten :=
      registryHolds_writeEntry (fun other held _ => hcreated other held) hfound
        (hload.2.1.trans hname) hload.1
    cases error with
    | some error =>
        simp only [Prod.mk.injEq] at h
        rcases h with ⟨rfl, rfl, _⟩
        exact ⟨hwritten, Or.inl ⟨error, rfl⟩⟩
    | none =>
        simp only [Prod.mk.injEq] at h
        rcases h with ⟨rfl, rfl, _⟩
        refine ⟨hwritten, Or.inr ⟨slot, loaded, rfl, hload.2.2 rfl, ?_⟩⟩
        unfold writeEntry
        rw [findTableIndex_set hfound (hload.2.1.trans hname), if_pos rfl]
  · simp only [Prod.mk.injEq] at h
    rcases h with ⟨rfl, rfl, _⟩
    exact ⟨registryHolds_of_items hregistry hitems, Or.inl ⟨error, rfl⟩⟩

theorem ensureLoaded_of_loaded {slot : Nat} {entry : TableIndex}
    (hfound :
      findTableIndex registry.items schema.storageName = some (slot, entry))
    (hloaded : entry.loaded = true) :
    ensureLoaded dataDir schema registry available =
      (writeEntry registry slot entry, .ok (slot, entry), available) := by
  unfold ensureLoaded getOrCreateTableIndex loadEntry
  simp [hfound, hloaded]

theorem ensureLoaded_unlimited (registry : TableIndexRegistry)
    {file : CsvFile}
    (hfile : dataDir.files schema.storageName = .ok file)
    (hne : file.contents ≠ []) {rows : List (Nat × List Bytes)}
    (hrows : parseLines (dataLines file.contents) = .ok rows) :
    exists after slot entry,
      ensureLoaded dataDir schema registry none =
        (after, .ok (slot, entry), none) := by
  have hcreate :
      exists created slot entry,
        getOrCreateTableIndex registry schema.storageName none =
          (created, .ok (slot, entry), none) := by
    unfold getOrCreateTableIndex
    cases findTableIndex registry.items schema.storageName with
    | some existing => exact ⟨_, _, _, rfl⟩
    | none =>
        simp only [allocate]
        split <;> exact ⟨_, _, _, rfl⟩
  rcases hcreate with ⟨created, slot, entry, hcreate⟩
  unfold ensureLoaded loadEntry
  rw [hcreate]
  simp only [scanRowsCsv_rebuild hfile hne hrows]
  by_cases hloaded : entry.loaded = true
  · simp only [hloaded, if_true]
    exact ⟨_, _, _, rfl⟩
  · simp only [hloaded]
    exact ⟨_, _, _, rfl⟩

end Loading

/-!
## The operations on a loaded entry
-/

section Operations

variable {dataDir : DataDir} {P : Bytes -> TableIndex -> Prop}
  {schema : Schema} {state : IndexState} {available : Option Nat}

theorem tableIndexGetNextId_cases (hP : EntryInvariant dataDir P)
    (hregistry : RegistryHolds P state.registry) {after : IndexState}
    {result : Except Bytes Int} {left : Option Nat}
    (h : tableIndexGetNextId dataDir schema state available =
      (after, result, left)) :
    RegistryHolds P after.registry ∧
      after.forceNextRegisterFailure = state.forceNextRegisterFailure ∧
      forall nextId, result = .ok nextId ->
        exists slot entry,
          findTableIndex after.registry.items schema.storageName =
              some (slot, entry) ∧
            entry.loaded = true ∧ entry.nextId = nextId := by
  unfold tableIndexGetNextId at h
  rcases hload : ensureLoaded dataDir schema state.registry available with
    ⟨loaded, found, memory⟩
  rw [hload] at h
  rcases ensureLoaded_cases hP hregistry hload with
    ⟨hholds, ⟨error, rfl⟩ | ⟨slot, entry, rfl, hloaded, hfound⟩⟩
  · simp only [Prod.mk.injEq] at h
    rcases h with ⟨rfl, rfl, _⟩
    exact ⟨hholds, rfl, fun nextId hnext => by simp at hnext⟩
  · simp only [Prod.mk.injEq] at h
    rcases h with ⟨rfl, rfl, _⟩
    refine ⟨hholds, rfl, fun nextId hnext => ?_⟩
    exact ⟨slot, entry, hfound, hloaded, by simpa using hnext⟩

theorem tableIndexFindRow_holds (hP : EntryInvariant dataDir P)
    (hregistry : RegistryHolds P state.registry) {id : Int}
    {after : IndexState} {result : Except Bytes (Option Int)}
    {left : Option Nat}
    (h : tableIndexFindRow dataDir schema id state available =
      (after, result, left)) : RegistryHolds P after.registry := by
  unfold tableIndexFindRow at h
  rcases hload : ensureLoaded dataDir schema state.registry available with
    ⟨loaded, found, memory⟩
  rw [hload] at h
  rcases ensureLoaded_cases hP hregistry hload with
    ⟨hholds, ⟨error, rfl⟩ | ⟨slot, entry, rfl, _⟩⟩
  · simp only [Prod.mk.injEq] at h
    rcases h with ⟨rfl, _⟩
    exact hholds
  · simp only [Prod.mk.injEq] at h
    rcases h with ⟨rfl, _⟩
    exact hholds

theorem tableIndexRegisterRow_of_loaded {slot : Nat} {entry : TableIndex}
    (hfound :
      findTableIndex state.registry.items schema.storageName =
        some (slot, entry))
    (hloaded : entry.loaded = true) (id rowOffset : Int) :
    tableIndexRegisterRow dataDir schema id rowOffset state available =
      if state.forceNextRegisterFailure then
        ({ state with forceNextRegisterFailure := false },
          some (ascii "forced index registration failure"), available)
      else
        ({ state with
            registry :=
              writeEntry state.registry slot
                (registerInEntry entry id rowOffset available).1 },
          (registerInEntry entry id rowOffset available).2) := by
  unfold tableIndexRegisterRow
  split
  · rfl
  · rw [ensureLoaded_of_loaded hfound hloaded]
    simp [writeEntry]

theorem registerInEntry_tableName (entry : TableIndex) (id rowOffset : Int) :
    (registerInEntry entry id rowOffset available).1.tableName =
      entry.tableName := by
  unfold registerInEntry
  cases herror : (bptreeInsert entry.tree id rowOffset available).error <;>
    simp [herror]

def registeredEntry (entry : TableIndex) (rowOffset : Int) : TableIndex :=
  { entry with
    tree := (bptreeInsert entry.tree entry.nextId rowOffset none).tree
    nextId := entry.nextId + 1 }

theorem registerInEntry_ok {entry : TableIndex} {rowOffset : Int}
    (h :
      (registerInEntry entry entry.nextId rowOffset available).2.1 = none) :
    (registerInEntry entry entry.nextId rowOffset available).1 =
      registeredEntry entry rowOffset := by
  unfold registerInEntry at h ⊢
  cases herror :
      (bptreeInsert entry.tree entry.nextId rowOffset available).error with
  | some error => simp [herror] at h
  | none =>
      have hunlimited := bptreeInsert_ok_unlimited herror
      simp [herror, hunlimited.2, registeredEntry]

theorem registerInEntry_inserted {entry : TableIndex} {rowOffset : Int}
    (h :
      (registerInEntry entry entry.nextId rowOffset available).2.1 = none) :
    (bptreeInsert entry.tree entry.nextId rowOffset none).Ok := by
  unfold registerInEntry at h
  cases herror :
      (bptreeInsert entry.tree entry.nextId rowOffset available).error with
  | some error => simp [herror] at h
  | none => exact (bptreeInsert_ok_unlimited herror).1

theorem tableIndexInvalidate_holds {name : Bytes}
    (hothers : forall other held, other ≠ name ->
      entryOf state.registry other = some held -> P other held)
    (hunloaded : forall entry, P name (unloadedTableIndex entry)) :
    RegistryHolds P (tableIndexInvalidate state name).registry := by
  unfold tableIndexInvalidate
  cases hfound : findTableIndex state.registry.items name with
  | none =>
      intro other held hheld
      by_cases hother : other = name
      · simp [entryOf, hother, hfound] at hheld
      · exact hothers other held hother hheld
  | some found =>
      rcases found with ⟨slot, entry⟩
      have hname : entry.tableName = name := findTableIndex_tableName hfound
      exact registryHolds_writeEntry hothers hfound hname (hunloaded entry)

/--
Registering a row in a loaded entry, and invalidating the entry when that fails,
keeps a predicate that the entry with its new row satisfies.
-/
theorem tableIndexRegisterRow_holds {slot : Nat} {entry : TableIndex}
    (hfound :
      findTableIndex state.registry.items schema.storageName =
        some (slot, entry))
    (hloaded : entry.loaded = true) {rowOffset : Int}
    (hothers : forall other held, other ≠ schema.storageName ->
      entryOf state.registry other = some held -> P other held)
    (hunloaded : forall entry, P schema.storageName (unloadedTableIndex entry))
    (hregistered :
      (bptreeInsert entry.tree entry.nextId rowOffset none).Ok ->
        P schema.storageName (registeredEntry entry rowOffset))
    {index : IndexState} {result : Option Bytes} {left : Option Nat}
    (h :
      tableIndexRegisterRow dataDir schema entry.nextId rowOffset state
          available = (index, result, left)) :
    (result = none -> RegistryHolds P index.registry) ∧
      RegistryHolds P
        (tableIndexInvalidate index schema.storageName).registry := by
  rw [tableIndexRegisterRow_of_loaded hfound hloaded] at h
  by_cases hforced : state.forceNextRegisterFailure = true
  · rw [if_pos hforced] at h
    simp only [Prod.mk.injEq] at h
    rcases h with ⟨rfl, rfl, _⟩
    exact ⟨by simp, tableIndexInvalidate_holds hothers hunloaded⟩
  · rw [if_neg hforced] at h
    simp only [Prod.mk.injEq] at h
    rcases h with ⟨rfl, hpair⟩
    have hresult := congrArg Prod.fst hpair
    have hname :
        (registerInEntry entry entry.nextId rowOffset available).1.tableName =
          schema.storageName :=
      (registerInEntry_tableName ..).trans (findTableIndex_tableName hfound)
    refine ⟨?_, tableIndexInvalidate_holds ?_ hunloaded⟩
    · intro hok
      have hnone := hresult.trans hok
      have hwritten := registerInEntry_ok hnone
      rw [hwritten] at hname ⊢
      exact registryHolds_writeEntry hothers hfound hname
        (hregistered (registerInEntry_inserted hnone))
    · intro other held hother hheld
      rw [entryOf_writeEntry hfound hname, if_neg hother] at hheld
      exact hothers other held hother hheld

end Operations

/-!
## Entries that agree with their file
-/

/-- A loaded entry is what a fresh rebuild of its file gives. -/
def EntryCurrent (dataDir : DataDir) (name : Bytes) (entry : TableIndex) :
    Prop :=
  entry.loaded = true ->
    exists (file : CsvFile) (rows : List (Nat × List Bytes)),
      dataDir.files name = .ok file ∧ file.contents ≠ [] ∧
        parseLines (dataLines file.contents) = .ok rows ∧
        entry.tree = treeOfRows (dataLines file.contents) ∧
        entry.nextId = nextIdOfRows (dataLines file.contents)

theorem entryCurrent_invariant (dataDir : DataDir) :
    EntryInvariant dataDir (EntryCurrent dataDir) where
  created := fun name h => by simp [newTableIndex] at h
  unloaded := fun name entry h => by simp [unloadedTableIndex] at h
  rebuilt := fun name entry available h _ => scanRowsCsv_rebuild_ok h

def EntryOrdered (entry : TableIndex) : Prop :=
  exists inserts : List (Int × Int),
    entry.tree = bptreeInsertAll bptreeInit inserts ∧
      forall e, e ∈ inserts -> e.1 < entry.nextId

theorem entryOrdered_invariant (dataDir : DataDir) :
    EntryInvariant dataDir (fun _ => EntryOrdered) where
  created := fun name => ⟨[], rfl, by simp⟩
  unloaded := fun name entry => ⟨[], rfl, by simp⟩
  rebuilt := fun name entry available h => by
    rcases scanRowsCsv_rebuild_ok h with ⟨file, rows, _, _, _, htree, hnext⟩
    refine ⟨numbered 1 (dataLines file.contents), htree, ?_⟩
    intro e he
    have hrange := numbered_key_range he
    rw [nextIdOfRows] at hnext
    simp only [hnext]
    omega

theorem entryOrdered_registered {entry : TableIndex} (h : EntryOrdered entry)
    (rowOffset : Int) : EntryOrdered (registeredEntry entry rowOffset) := by
  rcases h with ⟨inserts, htree, hbelow⟩
  refine ⟨inserts ++ [(entry.nextId, rowOffset)], ?_, ?_⟩
  · rw [bptreeInsertAll_append, ← htree]
    rfl
  · intro e he
    simp only [registeredEntry]
    rcases List.mem_append.mp he with he | he
    · have hlt := hbelow e he
      omega
    · rw [List.mem_singleton.mp he]
      omega

theorem bptreeSearch_registeredEntry {entry : TableIndex}
    (h : EntryOrdered entry) (rowOffset : Int) :
    bptreeSearch (registeredEntry entry rowOffset).tree entry.nextId =
      some rowOffset := by
  rcases h with ⟨inserts, htree, hbelow⟩
  have hgrown :
      (registeredEntry entry rowOffset).tree =
        bptreeInsertAll bptreeInit (inserts ++ [(entry.nextId, rowOffset)]) := by
    rw [bptreeInsertAll_append, ← htree]
    rfl
  rcases bptreeInsertAll_holds (inserts ++ [(entry.nextId, rowOffset)]) with
    ⟨held, hholds, hlookup⟩
  have habsent : inserts.lookup entry.nextId = none := by
    rw [KeyedList.lookup_eq_none_iff_not_bound]
    rintro ⟨e, he, hkey⟩
    have hlt := hbelow e he
    omega
  rw [hgrown, bptreeSearch_eq_lookup hholds, hlookup, lookup_append_singleton,
    habsent]
  simp

end Index
end SqlCsvServer
