import SqlCsvServer.Foundation.SideBySide
import SqlCsvServer.Index.PointerRuns

/-!
# The memory of the engine, table by table

To each table belong its entry in the registry and its file.  A pointer into the
registry is good as long as it points to the entry of its table, and growing the
array moves all entries at once.  This module says so for every step of the index, in
the terms of two threads on parts of their own.
-/

namespace SqlCsvServer
namespace Index

open Foundation Common Storage

/-!
## Parts
-/

/-- What belongs to one table. -/
structure TablePart where
  entry : Option TableIndex
  path : Bytes
  file : Except Errno CsvFile

/-- The part of a memory that belongs to a table. -/
def EngineMemory.table (name : Bytes) (memory : EngineMemory) : TablePart :=
  { entry := entryOf memory.indexMemory.index.registry name
    path := memory.dataDir.path
    file := memory.dataDir.files name }

/-- The array of the entries. -/
abbrev EngineMemory.registry (memory : EngineMemory) : TableIndexRegistry :=
  memory.indexMemory.index.registry

/-- A pointer that points to the entry of a table in the array. -/
def EngineMemory.Live (name : Bytes) (pointer : IndexPointer) (memory : EngineMemory) : Prop :=
  exists entry, memory.PointsTo pointer name entry

/--
The tables of a memory whose next registration is not made to fail.  Creating an entry
depends on how full the array is.
-/
def tableSharing : Sharing Bytes IndexPointer EngineMemory TablePart Nat (Nat × Nat) where
  part := EngineMemory.table
  known := fun part => part.entry.isSome
  live := EngineMemory.Live
  place := fun memory => memory.registry.block
  shape := fun memory => (memory.registry.items.length, memory.registry.capacity)
  fits := fun memory => memory.indexMemory.index.forceNextRegisterFailure = false

section Parts

variable {memory s t : EngineMemory} {name : Bytes} {pointer p q : IndexPointer}
  {entry : TableIndex}

theorem table_of_pointsTo (h : memory.PointsTo pointer name entry) :
    (memory.table name).entry = some entry := by
  unfold EngineMemory.table entryOf
  rw [h.2]
  rfl

theorem pointsTo_same (hpart : s.table name = t.table name) (hs : s.Live name p)
    (ht : t.Live name q) :
    exists entry, s.PointsTo p name entry ∧ t.PointsTo q name entry := by
  rcases hs with ⟨left, hs⟩
  rcases ht with ⟨right, ht⟩
  have hleft := table_of_pointsTo hs
  rw [hpart, table_of_pointsTo ht] at hleft
  cases hleft
  exact ⟨left, hs, ht⟩

end Parts

/-!
## Steps through a pointer
-/

section Pointer

variable {memory s t : EngineMemory} {name : Bytes} {pointer p q : IndexPointer}
  {entry : TableIndex}

theorem table_store (h : memory.PointsTo pointer name entry) {written : TableIndex}
    (hwritten : written.tableName = name) (other : Bytes) :
    (memory.store pointer written).table other =
      if other = name then { memory.table name with entry := some written }
      else memory.table other := by
  unfold EngineMemory.store EngineMemory.table
  rw [store_of_pointsTo h]
  simp only [IndexMemory.setRegistry, entryOf_writeEntry h.2 hwritten]
  by_cases hother : other = name
  · simp [hother]
  · simp [hother]

theorem touches_store (hfits : tableSharing.fits memory)
    (h : memory.PointsTo pointer name entry) {written : TableIndex}
    (hwritten : written.tableName = name) :
    tableSharing.Touches name memory (memory.store pointer written) := by
  have hstore : (memory.store pointer written).indexMemory =
      memory.indexMemory.setRegistry (writeEntry memory.registry pointer.slot written) :=
    store_of_pointsTo h written
  refine ⟨?_, fun other hother => ?_, ?_, fun _ => ⟨?_, ?_, ?_⟩⟩
  · change (memory.store pointer written).indexMemory.index.forceNextRegisterFailure = _
    rw [hstore]
    exact hfits
  · exact (table_store h hwritten other).trans (if_neg hother)
  · rintro - other reference ⟨found, hblock, hfound⟩
    change exists found, (memory.store pointer written).indexMemory.PointsTo reference other
      found
    rw [hstore]
    unfold IndexMemory.PointsTo
    simp only [IndexMemory.setRegistry, writeEntry, findTableIndex_set h.2 hwritten]
    by_cases hother : other = name
    · have hslot : reference.slot = pointer.slot := by
        rw [hother, h.2] at hfound
        exact (Prod.mk.inj (Option.some.inj hfound)).1.symm
      exact ⟨written, hblock, by rw [if_pos hother, hslot]⟩
    · exact ⟨found, hblock, by rw [if_neg hother, hfound]⟩
  · change ((memory.store pointer written).table name).entry.isSome = true
    rw [table_store h hwritten, if_pos rfl]
    rfl
  · change (memory.store pointer written).indexMemory.index.registry.block = _
    rw [hstore]
    rfl
  · change ((memory.store pointer written).indexMemory.index.registry.items.length,
      (memory.store pointer written).indexMemory.index.registry.capacity) = _
    rw [hstore]
    simp [IndexMemory.setRegistry, writeEntry, tableSharing]

theorem matches_modify (h : tableSharing.Similar name s t) (hs : s.Live name p)
    (ht : t.Live name q) {change : TableIndex -> TableIndex}
    (hchange : forall entry, (change entry).tableName = entry.tableName) :
    tableSharing.Matches name s t (s.modify p change) (t.modify q change) := by
  rcases pointsTo_same h.part hs ht with ⟨entry, hp, hq⟩
  have hname := (hchange entry).trans (pointsTo_name hp)
  rw [EngineMemory.modify_of_pointsTo hp, EngineMemory.modify_of_pointsTo hq]
  refine ⟨touches_store h.left hp hname, touches_store h.right hq hname, ?_⟩
  have hpart : s.table name = t.table name := h.part
  change (s.store p _).table name = (t.store q _).table name
  rw [table_store hp hname, table_store hq hname, if_pos rfl, if_pos rfl, hpart]

theorem load_same (h : tableSharing.Similar name s t) (hs : s.Live name p)
    (ht : t.Live name q) : s.load p = t.load q := by
  rcases pointsTo_same h.part hs ht with ⟨entry, hp, hq⟩
  rw [EngineMemory.load_of_pointsTo hp, EngineMemory.load_of_pointsTo hq]

theorem matches_still (h : tableSharing.Similar name s t) :
    tableSharing.Matches name s t s t :=
  ⟨.refl h.left, .refl h.right, h.part⟩

end Pointer

/-!
## Programs on one table
-/

abbrev SameProgram {ρ : Type} (name : Bytes) (held : Option (IndexPointer × IndexPointer))
    (P Q : IndexProgram ρ) : Prop :=
  tableSharing.Returning name held P Q

section Programs

variable {ρ γ : Type} {name : Bytes} {held : Option (IndexPointer × IndexPointer)}
  {p q : IndexPointer}
  {after : Option (IndexPointer × IndexPointer) -> ρ -> ρ -> Prop}

theorem alike_read {f : EngineMemory -> γ} {next more : γ -> IndexProgram ρ}
    (hf : forall s t : EngineMemory, s.table name = t.table name -> f s = f t)
    (hnext : forall found, tableSharing.Alike name after held (next found) (more found)) :
    tableSharing.Alike name after held (.read f next) (.read f more) := by
  refine .keep (fun s t h => matches_still h) fun s t h => ?_
  rw [hf s t h.part]
  exact hnext (f t)

theorem alike_readAt {f : TableIndex -> γ} {next more : γ -> IndexProgram ρ}
    (hnext : forall found, tableSharing.Alike name after (some (p, q)) (next found)
      (more found)) :
    tableSharing.Alike name after (some (p, q))
      (.readAt p (fun memory => f (memory.load p)) next)
      (.readAt q (fun memory => f (memory.load q)) more) := by
  refine .use (fun s t h _ _ => matches_still h) fun s t h hs ht => ?_
  simp only [load_same h hs ht]
  exact hnext _

theorem alike_writeAt {change : TableIndex -> TableIndex} {next more : IndexProgram ρ}
    (hchange : forall entry, (change entry).tableName = entry.tableName)
    (hnext : tableSharing.Alike name after (some (p, q)) next more) :
    tableSharing.Alike name after (some (p, q))
      (.writeAt p (EngineMemory.modify p change) next)
      (.writeAt q (EngineMemory.modify q change) more) :=
  .use (fun _ _ h hs ht => matches_modify h hs ht hchange) fun _ _ _ _ _ => hnext

theorem alike_insertBehind {id rowOffset : Int} {available : Option Nat}
    {next more : Option Bytes × Option Nat -> IndexProgram ρ}
    (hnext : forall inserted, tableSharing.Alike name after (some (p, q)) (next inserted)
      (more inserted)) :
    tableSharing.Alike name after (some (p, q))
      (.callAt p (insertBehind p id rowOffset available) next)
      (.callAt q (insertBehind q id rowOffset available) more) := by
  refine .use (fun s t h hs ht => ?_) fun s t h hs ht => ?_
  · unfold insertBehind
    rw [load_same h hs ht]
    exact matches_modify h hs ht fun _ => rfl
  · unfold insertBehind
    rw [load_same h hs ht]
    exact hnext _

end Programs

/-!
## The lookup
-/

/-- What `ensure_loaded` returns to two threads, and the pointers they hold then. -/
inductive SameFound :
    Option (IndexPointer × IndexPointer) -> Except Bytes IndexPointer × Option Nat ->
      Except Bytes IndexPointer × Option Nat -> Prop where
  | error {held : Option (IndexPointer × IndexPointer)} {text : Bytes}
      {available : Option Nat} :
      SameFound held (.error text, available) (.error text, available)
  | ok {p q : IndexPointer} {available : Option Nat} :
      SameFound (some (p, q)) (.ok p, available) (.ok q, available)

section Loading

variable {ρ : Type} {name : Bytes} {held : Option (IndexPointer × IndexPointer)}
  {p q : IndexPointer}

theorem failLoad_alike (text : Bytes) (available : Option Nat) :
    tableSharing.Alike name SameFound (some (p, q)) (failLoad p text available)
      (failLoad q text available) :=
  alike_writeAt (fun _ => rfl) (.done .error)

theorem loadRows_alike (lines : List (Nat × Bytes)) (nextId : Int) (available : Option Nat) :
    tableSharing.Alike name SameFound (some (p, q)) (loadRows p lines nextId available)
      (loadRows q lines nextId available) := by
  induction lines generalizing nextId available with
  | nil => exact alike_writeAt (fun _ => rfl) (.done .ok)
  | cons line lines ih =>
      rcases line with ⟨offset, text⟩
      unfold loadRows
      cases csvParseLine text with
      | error text => exact failLoad_alike text available
      | ok fields =>
          apply alike_insertBehind
          rintro ⟨_ | error, left⟩
          · exact ih (nextId + 1) left
          · exact failLoad_alike error left

theorem openTableFile_same {s t : EngineMemory} (h : s.table name = t.table name) :
    openTableFile s.dataDir name = openTableFile t.dataDir name := by
  unfold openTableFile
  rw [show s.dataDir.files name = t.dataDir.files name from congrArg TablePart.file h,
    show s.dataDir.path = t.dataDir.path from congrArg TablePart.path h]

theorem loadBehind_alike (available : Option Nat) :
    tableSharing.Alike name SameFound (some (p, q)) (loadBehind name p available)
      (loadBehind name q available) := by
  apply alike_readAt (f := TableIndex.loaded)
  intro loaded
  cases loaded with
  | true => exact .done .ok
  | false =>
      simp only [Bool.false_eq_true, if_false]
      refine alike_writeAt (fun _ => rfl) (alike_read (fun s t => openTableFile_same) ?_)
      rintro (text | contents)
      · exact failLoad_alike text available
      · simp only
        split
        · exact failLoad_alike _ available
        · exact loadRows_alike (dataLines contents) 1 available

end Loading

section Lookup

variable {ρ : Type} {name : Bytes} {held : Option (IndexPointer × IndexPointer)}
  {s t : EngineMemory}

/-- The pointer to the entry of a table, where it has one. -/
def EngineMemory.pointer (name : Bytes) (memory : EngineMemory) : IndexPointer :=
  { block := memory.registry.block
    slot := ((findTableIndex memory.registry.items name).map Prod.fst).getD 0 }

theorem live_pointer (h : (s.table name).entry.isSome) : s.Live name (s.pointer name) := by
  unfold EngineMemory.table entryOf at h
  rw [Option.isSome_map] at h
  rcases Option.isSome_iff_exists.mp h with ⟨⟨slot, entry⟩, hfound⟩
  refine ⟨entry, rfl, ?_⟩
  unfold EngineMemory.pointer
  rw [hfound]
  rfl

theorem getOrCreate_found (available : Option Nat) (h : (s.table name).entry.isSome) :
    s.onIndex (IndexMemory.getOrCreate name available) =
      (s, .ok (s.pointer name), available) := by
  rcases live_pointer h with ⟨entry, hblock, hfound⟩
  have hcreate : getOrCreateTableIndex s.registry name available =
      (s.registry, .ok ((s.pointer name).slot, entry), available) := by
    unfold getOrCreateTableIndex
    rw [hfound]
  unfold EngineMemory.onIndex IndexMemory.getOrCreate
  simp only [hcreate, IndexMemory.freedBy, if_true]
  rfl

theorem ensureLoadedProgram_alike (available : Option Nat) :
    tableSharing.Alike name SameFound held (ensureLoadedProgram name available)
      (ensureLoadedProgram name available) := by
  refine .lock (.find (EngineMemory.pointer name) (EngineMemory.pointer name)
    (fun s t h => ?_) (fun s t h => ?_) fun s t h => ?_)
  · rw [getOrCreate_found available h.known, getOrCreate_found available h.known_right]
    exact matches_still h
  · rw [getOrCreate_found available h.known, getOrCreate_found available h.known_right]
    exact ⟨live_pointer h.known, live_pointer h.known_right⟩
  · rw [getOrCreate_found available h.known, getOrCreate_found available h.known_right]
    exact .unlock (loadBehind_alike available)

end Lookup

/-!
## The operations
-/

section Operations

variable {name : Bytes} {held : Option (IndexPointer × IndexPointer)}

theorem ensureLoaded_andThen_alike {ρ : Type}
    {after : Option (IndexPointer × IndexPointer) -> ρ -> ρ -> Prop}
    {next : Except Bytes IndexPointer × Option Nat -> IndexProgram ρ} (available : Option Nat)
    (herror : forall held text left,
      tableSharing.Alike name after held (next (.error text, left)) (next (.error text, left)))
    (hok : forall p q left,
      tableSharing.Alike name after (some (p, q)) (next (.ok p, left)) (next (.ok q, left))) :
    tableSharing.Alike name after held ((ensureLoadedProgram name available).andThen next)
      ((ensureLoadedProgram name available).andThen next) := by
  apply (ensureLoadedProgram_alike available).andThen
  intro held found other h
  cases h with
  | error => exact herror held _ _
  | ok => exact hok _ _ _

theorem consumeRegisterFailure_unset {s : EngineMemory} (h : tableSharing.fits s) :
    s.onIndex consumeRegisterFailure = (s, false) := by
  have hunset : s.indexMemory.index.forceNextRegisterFailure = false := h
  unfold EngineMemory.onIndex consumeRegisterFailure
  simp [hunset]

theorem registerRowProgram_alike (id rowOffset : Int) (available : Option Nat) :
    SameProgram name held (registerRowProgram name id rowOffset available)
      (registerRowProgram name id rowOffset available) := by
  refine .keep (fun s t h => ?_) fun s t h => ?_
  · rw [consumeRegisterFailure_unset h.left, consumeRegisterFailure_unset h.right]
    exact matches_still h
  · rw [consumeRegisterFailure_unset h.left, consumeRegisterFailure_unset h.right]
    apply ensureLoaded_andThen_alike
    · exact fun _ _ _ => .done rfl
    · intro p q left
      apply alike_insertBehind
      rintro ⟨_ | error, rest⟩
      · exact alike_writeAt (fun _ => rfl) (.done rfl)
      · exact .done rfl

theorem invalidateEntry_store {s : EngineMemory} {pointer : IndexPointer} {entry : TableIndex}
    (h : s.PointsTo pointer name entry) :
    invalidateEntry name s = s.store pointer (unloadedTableIndex entry) := by
  unfold invalidateEntry tableIndexInvalidate EngineMemory.store
  rw [h.2, store_of_pointsTo h]
  rfl

theorem invalidateProgram_alike :
    SameProgram name held (invalidateProgram name) (invalidateProgram name) := by
  refine .lock (.keep (fun s t h => ?_) fun s t h => .unlock (.done rfl))
  have hmodify : forall s : EngineMemory, (s.table name).entry.isSome ->
      invalidateEntry name s = s.modify (s.pointer name) unloadedTableIndex := by
    intro s hknown
    rcases live_pointer hknown with ⟨entry, hpoints⟩
    rw [invalidateEntry_store hpoints, EngineMemory.modify_of_pointsTo hpoints]
  rw [hmodify s h.known, hmodify t h.known_right]
  exact matches_modify h (live_pointer h.known) (live_pointer h.known_right) fun _ => rfl

end Operations

/-!
## The first lookup
-/

def creation (full : Bool) (available : Option Nat) : Bool × Option Bytes × Option Nat :=
  let copied := fun (moved : Bool) (allocated : Bool × Option Nat) =>
    if allocated.1 then (moved, none, allocated.2)
    else (moved, some (ascii "out of memory while copying table name"), allocated.2)
  if full then
    if (allocate available).1 then copied true (allocate (allocate available).2)
    else
      (false, some (ascii "out of memory while creating table index"), (allocate available).2)
  else copied false (allocate available)

def createdRegistry (registry : TableIndexRegistry) (name : Bytes) (moved : Bool)
    (error : Option Bytes) : TableIndexRegistry :=
  { block := if moved then registry.block + 1 else registry.block
    items := if error = none then registry.items ++ [newTableIndex name] else registry.items
    capacity := if moved then grownCapacity registry.capacity else registry.capacity }

/-- What `get_or_create_table_index` returns for a table without an entry. -/
def createdResult (registry : TableIndexRegistry) (name : Bytes) :
    Option Bytes -> Except Bytes (Nat × TableIndex)
  | none => .ok (registry.items.length, newTableIndex name)
  | some text => .error text

section Creation

variable {name : Bytes} {available : Option Nat} {s t : EngineMemory}

def TableIndexRegistry.full (registry : TableIndexRegistry) : Bool :=
  decide (registry.items.length = registry.capacity)

theorem getOrCreate_missing {registry : TableIndexRegistry}
    (h : findTableIndex registry.items name = none) (available : Option Nat) :
    getOrCreateTableIndex registry name available =
      (createdRegistry registry name (creation registry.full available).1
          (creation registry.full available).2.1,
        createdResult registry name (creation registry.full available).2.1,
        (creation registry.full available).2.2) := by
  unfold getOrCreateTableIndex
  rw [h]
  by_cases hfull : registry.items.length = registry.capacity
  · rcases hfirst : allocate available with ⟨_ | _, left⟩
    · simp [TableIndexRegistry.full, creation, createdRegistry, createdResult, hfull, hfirst]
    · rcases hsecond : allocate left with ⟨_ | _, rest⟩
      · simp [TableIndexRegistry.full, creation, createdRegistry, createdResult, hfull,
          hfirst, hsecond]
      · simp [TableIndexRegistry.full, creation, createdRegistry, createdResult, hfull,
          hfirst, hsecond]
  · rcases hfirst : allocate available with ⟨_ | _, left⟩
    · simp [TableIndexRegistry.full, creation, createdRegistry, createdResult, hfull, hfirst]
    · simp [TableIndexRegistry.full, creation, createdRegistry, createdResult, hfull, hfirst]

theorem findTableIndex_created {registry : TableIndexRegistry} {moved : Bool}
    {error : Option Bytes} (h : findTableIndex registry.items name = none) (other : Bytes) :
    findTableIndex (createdRegistry registry name moved error).items other =
      if error = none ∧ other = name then some (registry.items.length, newTableIndex name)
      else findTableIndex registry.items other := by
  unfold createdRegistry
  cases error with
  | none =>
      simp only [if_true, true_and]
      exact findTableIndex_append h other
  | some text => simp

def EngineMemory.created (name : Bytes) (available : Option Nat) (memory : EngineMemory) :
    EngineMemory :=
  (memory.onIndex (IndexMemory.getOrCreate name available)).1

abbrev EngineMemory.creationError (available : Option Nat) (memory : EngineMemory) :
    Option Bytes :=
  (creation memory.registry.full available).2.1

theorem findTableIndex_missing (h : (s.table name).entry = none) :
    findTableIndex s.registry.items name = none := by
  unfold EngineMemory.table entryOf at h
  exact Option.map_eq_none_iff.mp h

theorem created_registry (h : (s.table name).entry = none) :
    (s.created name available).registry =
      createdRegistry s.registry name (creation s.registry.full available).1
        (s.creationError available) := by
  unfold EngineMemory.created EngineMemory.onIndex IndexMemory.getOrCreate
  simp only [getOrCreate_missing (findTableIndex_missing h) available]

theorem created_found (h : (s.table name).entry = none) :
    (s.onIndex (IndexMemory.getOrCreate name available)).2 =
      ((createdResult s.registry name (s.creationError available)).map fun entry =>
          { block := (s.created name available).registry.block, slot := entry.1 },
        (creation s.registry.full available).2.2) := by
  rw [created_registry h]
  unfold EngineMemory.onIndex IndexMemory.getOrCreate
  simp only [getOrCreate_missing (findTableIndex_missing h) available]

theorem created_table (h : (s.table name).entry = none) (other : Bytes) :
    (s.created name available).table other =
      if s.creationError available = none ∧ other = name then
        { s.table other with entry := some (newTableIndex name) }
      else s.table other := by
  have hfound := @findTableIndex_created name s.registry
    (creation s.registry.full available).1 (s.creationError available)
    (findTableIndex_missing h) other
  rw [← created_registry h] at hfound
  unfold EngineMemory.registry at hfound
  unfold EngineMemory.table entryOf
  rw [hfound]
  by_cases hmade : s.creationError available = none ∧ other = name
  · rw [if_pos hmade, if_pos hmade]
    rfl
  · rw [if_neg hmade, if_neg hmade]
    rfl

theorem touches_created (hfits : tableSharing.fits s) :
    tableSharing.Touches name s (s.created name available) := by
  cases hentry : (s.table name).entry with
  | some entry =>
      have hknown : (s.table name).entry.isSome := by rw [hentry]; rfl
      unfold EngineMemory.created
      rw [getOrCreate_found available hknown]
      exact .refl hfits
  | none =>
      refine ⟨hfits, fun other hother => ?_, ?_, fun hknown => ?_⟩
      · exact (created_table hentry other).trans (if_neg fun hmade => hother hmade.2)
      · rintro hplace other reference ⟨found, hblock, hfound⟩
        refine ⟨found, hblock.trans hplace.symm, ?_⟩
        change findTableIndex (s.created name available).registry.items other = _
        rw [created_registry hentry, findTableIndex_created (findTableIndex_missing hentry),
          if_neg]
        · exact hfound
        · rintro ⟨-, rfl⟩
          rw [findTableIndex_missing hentry] at hfound
          cases hfound
      · change (s.table name).entry.isSome = true at hknown
        rw [hentry] at hknown
        cases hknown

theorem full_same (h : tableSharing.shape s = tableSharing.shape t) :
    s.registry.full = t.registry.full := by
  rcases Prod.mk.inj h with ⟨hlength, hcapacity⟩
  unfold TableIndexRegistry.full
  rw [hlength, hcapacity]

theorem matches_created (hs : tableSharing.fits s) (ht : tableSharing.fits t)
    (hpart : s.table name = t.table name)
    (hshape : tableSharing.shape s = tableSharing.shape t) :
    tableSharing.Matches name s t (s.created name available) (t.created name available) ∧
      tableSharing.shape (s.created name available) =
        tableSharing.shape (t.created name available) := by
  have hfull := full_same hshape
  rcases Prod.mk.inj hshape with ⟨hlength, hcapacity⟩
  cases hentry : (s.table name).entry with
  | some entry =>
      have hknown : (s.table name).entry.isSome := by rw [hentry]; rfl
      have hthere : (t.table name).entry.isSome := hpart ▸ hknown
      unfold EngineMemory.created
      rw [getOrCreate_found available hknown, getOrCreate_found available hthere]
      exact ⟨⟨.refl hs, .refl ht, hpart⟩, hshape⟩
  | none =>
      have hthere : (t.table name).entry = none := hpart ▸ hentry
      refine ⟨⟨touches_created hs, touches_created ht, ?_⟩, ?_⟩
      · change (s.created name available).table name = (t.created name available).table name
        rw [created_table hentry, created_table hthere, EngineMemory.creationError, hfull, hpart]
      · change ((s.created name available).registry.items.length,
          (s.created name available).registry.capacity) =
            ((t.created name available).registry.items.length,
              (t.created name available).registry.capacity)
        rw [created_registry hentry, created_registry hthere, EngineMemory.creationError, hfull]
        unfold createdRegistry
        simp only [hcapacity]
        split
        · simp [hlength]
        · simp [hlength]

theorem created_same (hpart : s.table name = t.table name)
    (hshape : tableSharing.shape s = tableSharing.shape t) :
    (exists p q left,
      (s.onIndex (IndexMemory.getOrCreate name available)).2 = (.ok p, left) ∧
        (t.onIndex (IndexMemory.getOrCreate name available)).2 = (.ok q, left) ∧
        (s.created name available).Live name p ∧ (t.created name available).Live name q) ∨
      exists text left,
        (s.onIndex (IndexMemory.getOrCreate name available)).2 = (.error text, left) ∧
          (t.onIndex (IndexMemory.getOrCreate name available)).2 = (.error text, left) := by
  cases hentry : (s.table name).entry with
  | some entry =>
      have hknown : (s.table name).entry.isSome := by rw [hentry]; rfl
      have hthere : (t.table name).entry.isSome := hpart ▸ hknown
      unfold EngineMemory.created
      rw [getOrCreate_found available hknown, getOrCreate_found available hthere]
      exact Or.inl ⟨_, _, _, rfl, rfl, live_pointer hknown, live_pointer hthere⟩
  | none =>
      have hthere : (t.table name).entry = none := hpart ▸ hentry
      have hlive : forall {s : EngineMemory}, (s.table name).entry = none ->
          s.creationError available = none ->
            (s.created name available).Live name
              { block := (s.created name available).registry.block
                slot := s.registry.items.length } := by
        intro s hmissing hmade
        refine ⟨newTableIndex name, rfl, ?_⟩
        change findTableIndex (s.created name available).registry.items name = _
        rw [created_registry hmissing,
          findTableIndex_created (findTableIndex_missing hmissing), if_pos ⟨hmade, rfl⟩]
      have hsame : s.creationError available = t.creationError available := by
        unfold EngineMemory.creationError
        rw [full_same hshape]
      rw [created_found hentry, created_found hthere, ← full_same hshape, ← hsame]
      cases herror : s.creationError available with
      | none =>
          exact Or.inl ⟨_, _, _, rfl, rfl, hlive hentry herror,
            hlive hthere (hsame.symm.trans herror)⟩
      | some text => exact Or.inr ⟨text, _, rfl, rfl⟩

end Creation

section Fresh

variable {ρ : Type} {name : Bytes}

theorem fresh_read {γ δ : Type} {f : EngineMemory -> γ} {next : γ -> IndexProgram δ}
    {last : δ -> IndexProgram ρ}
    (hf : forall s t : EngineMemory, s.table name = t.table name -> f s = f t)
    (hnext : forall s, tableSharing.Fresh name ((next (f s)).andThen last)) :
    tableSharing.Fresh name ((LockProgram.read f next).andThen last) :=
  .read (fun s t h => congrArg (fun found => (next found).andThen last) (hf s t h)) hnext

theorem ensureLoaded_fresh {next : Except Bytes IndexPointer × Option Nat -> IndexProgram ρ}
    (available : Option Nat)
    (herror : forall text left, exists result, Ends result (next (.error text, left)))
    (hok : forall p q left,
      SameProgram name (some (p, q)) (next (.ok p, left)) (next (.ok q, left))) :
    tableSharing.Fresh name ((ensureLoadedProgram name available).andThen next) := by
  refine .lock (.look (fun s t hs ht hpart hshape => matches_created hs ht hpart hshape)
    fun s t hs ht hpart hshape => ?_)
  rcases @created_same name available s t hpart hshape with
    ⟨p, q, left, hleft, hright, hp, hq⟩ | ⟨text, left, hleft, hright⟩
  · simp only [hleft, hright]
    rcases hp with ⟨entry, hpoints⟩
    refine .works ?_ (Sharing.liveFor_pair ⟨entry, hpoints⟩ hq) (.unlock ?_)
    · exact (congrArg Option.isSome (table_of_pointsTo hpoints)).trans rfl
    · apply (loadBehind_alike left).andThen
      intro held found other h
      cases h with
      | error =>
          rcases herror _ _ with ⟨result, hends⟩
          exact Sharing.Returning.of_ends hends
      | ok => exact hok _ _ _
  · simp only [hleft, hright]
    rcases herror text left with ⟨result, hends⟩
    exact .ends (.unlock hends) (.unlock hends)

theorem getNextIdProgram_fresh {next : Except Bytes Int × Option Nat -> IndexProgram ρ}
    (available : Option Nat)
    (herror : forall text left, exists result, Ends result (next (.error text, left)))
    (hok : forall held nextId left,
      SameProgram name held (next (.ok nextId, left)) (next (.ok nextId, left))) :
    tableSharing.Fresh name ((getNextIdProgram name available).andThen next) := by
  unfold getNextIdProgram
  rw [LockProgram.andThen_assoc]
  apply ensureLoaded_fresh available
  · exact fun text left => herror text left
  · intro p q left
    have hread : @SameProgram (Except Bytes Int × Option Nat) name (some (p, q))
        (.readAt p (fun memory => (memory.load p).nextId) fun nextId =>
          .done (Except.ok nextId, left))
        (.readAt q (fun memory => (memory.load q).nextId) fun nextId =>
          .done (Except.ok nextId, left)) :=
      alike_readAt (f := TableIndex.nextId) fun _ => .done rfl
    apply hread.andThen
    rintro held ⟨text | nextId, rest⟩ _ rfl
    · rcases herror text rest with ⟨result, hends⟩
      exact Sharing.Returning.of_ends hends
    · exact hok held nextId rest

theorem findRowProgram_fresh {next : Except Bytes (Option Int) -> IndexProgram ρ} (id : Int)
    (available : Option Nat)
    (herror : forall text, exists result, Ends result (next (.error text)))
    (hok : forall held found, SameProgram name held (next (.ok found)) (next (.ok found))) :
    tableSharing.Fresh name ((findRowProgram name id available).andThen next) := by
  unfold findRowProgram
  rw [LockProgram.andThen_assoc]
  apply ensureLoaded_fresh available
  · exact fun text _ => herror text
  · intro p q left
    have hread : @SameProgram (Except Bytes (Option Int)) name (some (p, q))
        (.readAt p (fun memory => bptreeSearch (memory.load p).tree id) fun found =>
          .done (Except.ok found))
        (.readAt q (fun memory => bptreeSearch (memory.load q).tree id) fun found =>
          .done (Except.ok found)) :=
      alike_readAt (f := fun entry => bptreeSearch entry.tree id) fun _ => .done rfl
    apply hread.andThen
    rintro held (text | found) _ rfl
    · rcases herror text with ⟨result, hends⟩
      exact Sharing.Returning.of_ends hends
    · exact hok held found

end Fresh

end Index
end SqlCsvServer
