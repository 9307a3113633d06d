import Mathlib.Data.List.Perm.Basic
import SqlCsvServer.Storage.Schema

/-!
# The order in which a directory is listed

`find_schema_path` takes the first meta file that declares the table, or stops at
the first that it cannot read.  `readdir` may list the files in any order, so
`load_schema` depends on it as soon as two files stop the search and one of them
holds a valid table.
-/

namespace SqlCsvServer
namespace Storage

open Foundation Common

def SchemaDir.listedAs (dir : SchemaDir) (order : List Bytes) : SchemaDir :=
  { dir with entries := .ok order }

/-- What matters of a call of `load_schema`: the storage name, if it succeeds. -/
def loadedStorage (schemaDir : SchemaDir) (dataDir : DataDir) (tableName : Bytes) :
    Option Bytes :=
  (loadSchema schemaDir dataDir tableName).toOption.map Schema.storageName

/-!
## What the search looks at
-/

/-- `find_schema_path` goes through the directory. -/
def searchesDirectory (dir : SchemaDir) (tableName : Bytes) : Bool :=
  match dir.openFile (tableName ++ ascii ".meta") with
  | .error .noEntry => true
  | .error .notDirectory => true
  | .error .illegalSequence => true
  | _ => false

def stopsSearch (dir : SchemaDir) (tableName entry : Bytes) : Bool :=
  hasMetaExtension entry &&
    match fileDeclaresTable dir entry tableName with
    | .ok false => false
    | _ => true

def declaresTable (dir : SchemaDir) (tableName entry : Bytes) : Bool :=
  hasMetaExtension entry &&
    match fileDeclaresTable dir entry tableName with
    | .ok true => true
    | _ => false

/-- A meta file from which `load_schema` makes this schema. -/
structure MetaLoads (dir : SchemaDir) (dataDir : DataDir) (tableName filename : Bytes)
    (schema : Schema) : Prop where
  read : exists contents, dir.openFile filename = .ok contents ∧
    readMetaLoop (readLines lineSize contents) { tableName := none, columns := [] } =
      .ok { tableName := some schema.tableName, columns := schema.columns }
  storage : schema.storageName = extractStorageName (metaPath dir filename)
  columns_ne_nil : schema.columns ≠ []
  no_id : schemaHasReservedIdColumn schema = false
  named : schema.tableName = tableName ∨ schema.storageName = tableName
  header : validateCsvHeader dataDir schema = .ok ()

/--
Two entries of a directory that is searched stop the search, and one of them declares
the table and holds a valid definition of it.
-/
def AmbiguousListing (dir : SchemaDir) (dataDir : DataDir) (tableName : Bytes)
    (listing : List Bytes) : Prop :=
  searchesDirectory dir tableName = true ∧
    exists loaded stops schema,
      loaded ∈ listing ∧ stops ∈ listing ∧ loaded ≠ stops ∧
        declaresTable dir tableName loaded = true ∧
        MetaLoads dir dataDir tableName loaded schema ∧
        stopsSearch dir tableName stops = true

/-!
## The search
-/

section Search

variable {dir : SchemaDir} {tableName : Bytes}

theorem stopsSearch_of_declares {entry : Bytes}
    (h : declaresTable dir tableName entry = true) :
    stopsSearch dir tableName entry = true := by
  unfold declaresTable at h
  unfold stopsSearch
  rw [Bool.and_eq_true] at h ⊢
  refine ⟨h.1, ?_⟩
  cases hdeclares : fileDeclaresTable dir entry tableName with
  | error text => rfl
  | ok found =>
      cases found with
      | true => rfl
      | false =>
          rw [hdeclares] at h
          cases h.2

theorem hasMetaExtension_of_declares {entry : Bytes}
    (h : declaresTable dir tableName entry = true) : hasMetaExtension entry = true := by
  unfold declaresTable at h
  rw [Bool.and_eq_true] at h
  exact h.1

theorem findDeclaringFile_eq_ok_iff {filename : Bytes} {order : List Bytes} :
    findDeclaringFile dir tableName order = .ok filename <->
      order.find? (stopsSearch dir tableName) = some filename ∧
        declaresTable dir tableName filename = true := by
  induction order with
  | nil => simp [findDeclaringFile]
  | cons entry order ih =>
      unfold findDeclaringFile
      rw [List.find?_cons]
      cases hmeta : hasMetaExtension entry with
      | false =>
          have hgoes : stopsSearch dir tableName entry = false := by
            rw [stopsSearch, hmeta, Bool.false_and]
          rw [hgoes]
          exact ih
      | true =>
          cases hdeclares : fileDeclaresTable dir entry tableName with
          | error text =>
              have hstops : stopsSearch dir tableName entry = true := by
                rw [stopsSearch, hmeta, hdeclares, Bool.true_and]
              simp only [hstops, if_true, reduceCtorEq, false_iff, not_and,
                Option.some.injEq]
              rintro rfl
              rw [declaresTable, hdeclares, Bool.and_false]
              exact Bool.false_ne_true
          | ok found =>
              cases found with
              | true =>
                  have hstops : stopsSearch dir tableName entry = true := by
                    rw [stopsSearch, hmeta, hdeclares, Bool.true_and]
                  simp only [hstops, if_true, Except.ok.injEq, Option.some.injEq,
                    iff_self_and]
                  rintro rfl
                  rw [declaresTable, hmeta, hdeclares, Bool.true_and]
              | false =>
                  have hgoes : stopsSearch dir tableName entry = false := by
                    rw [stopsSearch, hdeclares, Bool.and_false]
                  rw [hgoes]
                  exact ih

theorem findSchemaPath_listedAs (h : searchesDirectory dir tableName = true)
    (order : List Bytes) :
    findSchemaPath (dir.listedAs order) tableName =
      findDeclaringFile (dir.listedAs order) tableName order := by
  unfold searchesDirectory at h
  unfold findSchemaPath SchemaDir.listedAs
  cases hopen : dir.openFile (tableName ++ ascii ".meta") with
  | ok contents =>
      rw [hopen] at h
      cases h
  | error errno =>
      cases errno with
      | noEntry => rfl
      | notDirectory => rfl
      | illegalSequence => rfl
      | other text =>
          rw [hopen] at h
          cases h

theorem findSchemaPath_direct (h : searchesDirectory dir tableName = false)
    (order other : List Bytes) :
    findSchemaPath (dir.listedAs order) tableName =
      findSchemaPath (dir.listedAs other) tableName := by
  unfold searchesDirectory at h
  unfold findSchemaPath SchemaDir.listedAs
  cases hopen : dir.openFile (tableName ++ ascii ".meta") with
  | ok contents => rfl
  | error errno =>
      cases errno with
      | noEntry =>
          rw [hopen] at h
          cases h
      | notDirectory =>
          rw [hopen] at h
          cases h
      | illegalSequence =>
          rw [hopen] at h
          cases h
      | other text => rfl

end Search

/-!
## The definition behind the path
-/

section Definition

variable {dir : SchemaDir} {dataDir : DataDir} {tableName filename : Bytes}
  {schema : Schema}

theorem readSchema_of_path (hpath : findSchemaPath dir tableName = .ok filename)
    (h : readSchema dir tableName = .ok schema)
    (hheader : validateCsvHeader dataDir schema = .ok ()) :
    MetaLoads dir dataDir tableName filename schema := by
  unfold readSchema at h
  rw [hpath] at h
  simp only at h
  cases hopen : dir.openFile filename with
  | error errno =>
      rw [hopen] at h
      cases h
  | ok contents =>
      rw [hopen] at h
      simp only at h
      cases hread : readMetaLoop (readLines lineSize contents)
          { tableName := none, columns := [] } with
      | error text =>
          rw [hread] at h
          cases h
      | ok fields =>
          rw [hread] at h
          rcases fields with ⟨_ | declared, columns⟩
          · cases h
          · simp only at h
            split at h
            · cases h
            · rename_i hcolumns
              split at h
              · cases h
              · rename_i hid
                split at h
                · cases h
                · rename_i hnamed
                  rw [not_and_or, not_not, not_not] at hnamed
                  rw [Except.ok.injEq] at h
                  subst h
                  exact ⟨⟨contents, hopen, hread⟩, rfl, hcolumns,
                    Bool.eq_false_iff.mpr hid, hnamed, hheader⟩

theorem MetaLoads.readSchema (hpath : findSchemaPath dir tableName = .ok filename)
    (h : MetaLoads dir dataDir tableName filename schema) :
    readSchema dir tableName = .ok schema := by
  rcases h.read with ⟨contents, hopen, hread⟩
  have hid := Bool.eq_false_iff.mp h.no_id
  have hnamed : ¬ (schema.tableName ≠ tableName ∧ schema.storageName ≠ tableName) := by
    rw [not_and_or, not_not, not_not]
    exact h.named
  unfold Storage.readSchema
  rw [hpath]
  simp only [hopen, hread, ← h.storage]
  rw [if_neg h.columns_ne_nil, if_neg hid, if_neg hnamed]

theorem loadSchema_of_path (hpath : findSchemaPath dir tableName = .ok filename) :
    loadSchema dir dataDir tableName = .ok schema <->
      MetaLoads dir dataDir tableName filename schema := by
  rw [loadSchema_eq_ok_iff]
  constructor
  · exact fun h => readSchema_of_path hpath h.1 h.2
  · exact fun h => ⟨h.readSchema hpath, h.header⟩

theorem loadSchema_of_no_path {text : Bytes}
    (hpath : findSchemaPath dir tableName = .error text) :
    loadedStorage dir dataDir tableName = none := by
  unfold loadedStorage loadSchema readSchema
  rw [hpath]
  rfl

end Definition

/-!
## Names of files and of tables
-/

section Names

variable {dir : SchemaDir}

theorem pathFilename_metaPath {filename : Bytes} (h : 0x2F ∉ filename) :
    pathFilename (metaPath dir filename) = filename := by
  unfold pathFilename metaPath
  have hall : forall b, b ∈ filename.reverse -> (b != 0x2F) = true := by
    intro b hb
    rw [bne_iff_ne]
    exact fun heq => h (heq ▸ List.mem_reverse.mp hb)
  rw [List.rtakeWhile, List.reverse_append, List.takeWhile_append_of_pos hall,
    List.reverse_append]
  have hslash : ascii "/" = [0x2F] := rfl
  simp [hslash]

theorem extractStorageName_metaPath {filename : Bytes} (h : 0x2F ∉ filename)
    (hmeta : hasMetaExtension filename = true) :
    extractStorageName (metaPath dir filename) ++ ascii ".meta" = filename := by
  unfold extractStorageName
  rw [pathFilename_metaPath h, if_pos hmeta]
  rcases List.isSuffixOf_iff_suffix.mp hmeta with ⟨stem, rfl⟩
  rw [List.rdrop_append_length]

theorem extractStorageName_inj {first second : Bytes} (hfirst : 0x2F ∉ first)
    (hsecond : 0x2F ∉ second) (hfirstMeta : hasMetaExtension first = true)
    (hsecondMeta : hasMetaExtension second = true)
    (h : extractStorageName (metaPath dir first) =
      extractStorageName (metaPath dir second)) : first = second := by
  rw [← extractStorageName_metaPath hfirst hfirstMeta, h,
    extractStorageName_metaPath hsecond hsecondMeta]

end Names

/-!
## Any two orders
-/

/-- `load_schema` gives the same, however the directory is listed. -/
def OrderIndependent (dir : SchemaDir) (dataDir : DataDir) (tableName : Bytes)
    (listing : List Bytes) : Prop :=
  forall first second : List Bytes, first.Perm listing -> second.Perm listing ->
    loadedStorage (dir.listedAs first) dataDir tableName =
      loadedStorage (dir.listedAs second) dataDir tableName

section Orders

variable {dir : SchemaDir} {dataDir : DataDir} {tableName : Bytes}

theorem loadedStorage_eq_some_iff (hsearch : searchesDirectory dir tableName = true)
    {order : List Bytes} {name : Bytes} :
    loadedStorage (dir.listedAs order) dataDir tableName = some name <->
      exists filename schema,
        order.find? (stopsSearch dir tableName) = some filename ∧
          declaresTable dir tableName filename = true ∧
          MetaLoads dir dataDir tableName filename schema ∧ schema.storageName = name := by
  constructor
  · intro h
    cases hpath : findSchemaPath (dir.listedAs order) tableName with
    | error text =>
        rw [loadSchema_of_no_path hpath] at h
        cases h
    | ok filename =>
        rcases Option.map_eq_some_iff.mp h with ⟨schema, hschema, hname⟩
        have hload : loadSchema (dir.listedAs order) dataDir tableName = .ok schema := by
          cases hloaded : loadSchema (dir.listedAs order) dataDir tableName with
          | error text =>
              rw [hloaded] at hschema
              cases hschema
          | ok found =>
              rw [hloaded] at hschema
              rw [Option.some.inj hschema]
        have hmeta := (loadSchema_of_path hpath).mp hload
        rw [findSchemaPath_listedAs hsearch, findDeclaringFile_eq_ok_iff] at hpath
        exact ⟨filename, schema, hpath.1, hpath.2,
          ⟨hmeta.read, hmeta.storage, hmeta.columns_ne_nil, hmeta.no_id, hmeta.named,
            hmeta.header⟩, hname⟩
  · rintro ⟨filename, schema, hfind, hdeclares, hmeta, hname⟩
    have hpath : findSchemaPath (dir.listedAs order) tableName = .ok filename := by
      rw [findSchemaPath_listedAs hsearch, findDeclaringFile_eq_ok_iff]
      exact ⟨hfind, hdeclares⟩
    have hload : loadSchema (dir.listedAs order) dataDir tableName = .ok schema :=
      (loadSchema_of_path hpath).mpr
        ⟨hmeta.read, hmeta.storage, hmeta.columns_ne_nil, hmeta.no_id, hmeta.named,
          hmeta.header⟩
    unfold loadedStorage
    rw [hload]
    exact congrArg some hname

theorem loadedStorage_other_order {listing first second : List Bytes} {name : Bytes}
    (hsearch : searchesDirectory dir tableName = true)
    (hclear : ¬ AmbiguousListing dir dataDir tableName listing)
    (hfirst : first.Perm listing) (hsecond : second.Perm listing)
    (h : loadedStorage (dir.listedAs first) dataDir tableName = some name) :
    loadedStorage (dir.listedAs second) dataDir tableName = some name := by
  rw [loadedStorage_eq_some_iff hsearch] at h ⊢
  rcases h with ⟨filename, schema, hfind, hdeclares, hmeta, hname⟩
  have hmem : filename ∈ listing := hfirst.mem_iff.mp (List.mem_of_find?_eq_some hfind)
  have hstops := stopsSearch_of_declares hdeclares
  cases hother : second.find? (stopsSearch dir tableName) with
  | none =>
      have hgoes := List.find?_eq_none.mp hother filename (hsecond.mem_iff.mpr hmem)
      exact absurd hstops hgoes
  | some found =>
      have hfound := hsecond.mem_iff.mp (List.mem_of_find?_eq_some hother)
      have hsame : filename = found := by
        by_contra hne
        exact hclear ⟨hsearch, filename, found, schema, hmem, hfound, hne, hdeclares, hmeta,
          List.find?_some hother⟩
      exact ⟨found, schema, rfl, hsame ▸ hdeclares, hsame ▸ hmeta, hname⟩

theorem find?_stops_first {entry : Bytes} {listing : List Bytes}
    (hstops : stopsSearch dir tableName entry = true) :
    (entry :: listing.erase entry).find? (stopsSearch dir tableName) = some entry :=
  List.find?_cons_of_pos hstops

theorem AmbiguousListing.not_orderIndependent {listing : List Bytes}
    (hnames : forall entry, entry ∈ listing -> 0x2F ∉ entry)
    (h : AmbiguousListing dir dataDir tableName listing) :
    ¬ OrderIndependent dir dataDir tableName listing := by
  rcases h with
    ⟨hsearch, loaded, stops, schema, hloaded, hstops, hne, hdeclares, hmeta, hends⟩
  intro hsame
  have hfirst : loadedStorage (dir.listedAs (loaded :: listing.erase loaded)) dataDir
      tableName = some schema.storageName :=
    (loadedStorage_eq_some_iff hsearch).mpr
      ⟨loaded, schema, find?_stops_first (stopsSearch_of_declares hdeclares), hdeclares,
        hmeta, rfl⟩
  rw [hsame _ (stops :: listing.erase stops) (List.perm_cons_erase hloaded).symm
    (List.perm_cons_erase hstops).symm, loadedStorage_eq_some_iff hsearch] at hfirst
  rcases hfirst with ⟨found, other, hfind, hfoundDeclares, hfoundMeta, hname⟩
  rw [find?_stops_first hends, Option.some.injEq] at hfind
  subst hfind
  -- two files with the same storage name are one
  apply hne
  apply extractStorageName_inj (hnames _ hloaded) (hnames _ hstops)
  · exact hasMetaExtension_of_declares hdeclares
  · exact hasMetaExtension_of_declares hfoundDeclares
  · rw [← hmeta.storage, ← hfoundMeta.storage, hname]

/--
`load_schema` does not depend on the order in which the directory is listed unless
a valid definition of the table stands there beside another file that declares it or
cannot be read.
-/
theorem load_schema_order_iff {listing : List Bytes}
    (hnames : forall entry, entry ∈ listing -> 0x2F ∉ entry) :
    OrderIndependent dir dataDir tableName listing <->
      ¬ AmbiguousListing dir dataDir tableName listing := by
  constructor
  · exact fun hsame hambiguous => hambiguous.not_orderIndependent hnames hsame
  · intro hclear first second hfirst hsecond
    cases hsearch : searchesDirectory dir tableName with
    | true =>
        apply Option.ext
        intro name
        constructor
        · exact loadedStorage_other_order hsearch hclear hfirst hsecond
        · exact loadedStorage_other_order hsearch hclear hsecond hfirst
    | false =>
        unfold loadedStorage loadSchema readSchema
        rw [findSchemaPath_direct hsearch first second]
        rfl

end Orders

/-- Two meta files declare the table `users`, a third one another table. -/
def aliasDir : SchemaDir :=
  { path := ascii "schema"
    openFile := fun filename =>
      if filename = ascii "a.meta" ∨ filename = ascii "b.meta" then
        .ok (ascii "table=users\ncolumns=name\n")
      else if filename = ascii "c.meta" then
        .ok (ascii "table=orders\ncolumns=name\n")
      else .error .noEntry
    isRegular := fun _ => .ok true
    entries := .ok [] }

def aliasData : DataDir :=
  { path := ascii "data"
    files := fun _ => .ok { contents := ascii "name\n", updateError := none } }

theorem load_schema_order_sample :
    OrderIndependent aliasDir aliasData (ascii "users")
      [ascii "a.meta", ascii "c.meta"] := by
  have hnames : forall entry, entry ∈ [ascii "a.meta", ascii "c.meta"] ->
      (0x2F : Byte) ∉ entry := by
    intro entry hentry
    rcases List.mem_cons.mp hentry with rfl | hentry
    · decide
    · rw [List.mem_singleton.mp hentry]
      decide
  have hother : stopsSearch aliasDir (ascii "users") (ascii "c.meta") = false := by
    decide
  have honly : forall entry, entry ∈ [ascii "a.meta", ascii "c.meta"] ->
      stopsSearch aliasDir (ascii "users") entry = true -> entry = ascii "a.meta" := by
    intro entry hentry hstops
    rcases List.mem_cons.mp hentry with heq | hentry
    · exact heq
    · rw [List.mem_singleton.mp hentry, hother] at hstops
      cases hstops
  apply (load_schema_order_iff hnames).mpr
  rintro ⟨_, loaded, stops, schema, hloaded, hstops, hne, hdeclares, _, hends⟩
  exact hne ((honly loaded hloaded (stopsSearch_of_declares hdeclares)).trans
    (honly stops hstops hends).symm)

/-- With two files for one table the storage name depends on the order. -/
theorem two_aliases_load_by_order :
    ¬ OrderIndependent aliasDir aliasData (ascii "users")
      [ascii "a.meta", ascii "b.meta"] := by
  intro hsame
  have hfirst : loadedStorage (aliasDir.listedAs [ascii "a.meta", ascii "b.meta"])
      aliasData (ascii "users") = some (ascii "a") := by
    decide
  have hsecond : loadedStorage (aliasDir.listedAs [ascii "b.meta", ascii "a.meta"])
      aliasData (ascii "users") = some (ascii "b") := by
    decide
  rw [hsame _ _ (List.Perm.refl _) (List.Perm.swap _ _ _), hsecond] at hfirst
  exact absurd hfirst (by decide)

end Storage
end SqlCsvServer
