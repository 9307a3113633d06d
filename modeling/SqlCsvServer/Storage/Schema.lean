import SqlCsvServer.Storage.RowLines

/-!
# Loading a table definition: `storage/schema.c`

A schema directory is seen through the calls that `load_schema` makes on
it: opening a file for reading, `stat`, and the order in which
`readdir` lists the entries.
-/

namespace SqlCsvServer
namespace Storage

open Foundation Common

/-- The schema directory; files are looked up by their name in it. -/
structure SchemaDir where
  path : Bytes
  /-- `fopen` with mode `"rb"`. -/
  openFile : Bytes -> Except Errno Bytes
  /-- `stat`, and whether it found a regular file. -/
  isRegular : Bytes -> Except Errno Bool
  /-- `opendir`, and the names that `readdir` returns in order. -/
  entries : Except Errno (List Bytes)

structure Schema where
  tableName : Bytes
  storageName : Bytes
  columns : List Bytes
deriving DecidableEq

def schemaFindColumn (schema : Schema) (columnName : Bytes) : Option Nat :=
  stringListIndexOf schema.columns columnName

def schemaHasReservedIdColumn (schema : Schema) : Bool :=
  (schemaFindColumn schema (ascii "id")).isSome

def hasMetaExtension (filename : Bytes) : Bool :=
  (ascii ".meta").isSuffixOf filename

def pathFilename (path : Bytes) : Bytes :=
  path.rtakeWhile (fun b => b != 0x2F)

def extractStorageName (path : Bytes) : Bytes :=
  if hasMetaExtension (pathFilename path) then
    (pathFilename path).rdrop (ascii ".meta").length
  else pathFilename path

def splitKeyValue (trimmed : Bytes) : Option (Bytes × Bytes) :=
  if (0x3D : Byte) ∈ trimmed then
    some (trimmed.takeWhile (fun b => b != 0x3D),
      trimWhitespace ((trimmed.dropWhile (fun b => b != 0x3D)).drop 1))
  else none

/-- A line of a meta file, as `trim_whitespace` leaves it. -/
def metaText (line : Bytes) : Bytes :=
  trimWhitespace (lineText line)

/-!
## Finding the meta file
-/

/-- The loop of `file_declares_table`. -/
def declaresTableLoop (tableName : Bytes) : List Bytes -> Bool
  | [] => false
  | line :: lines =>
      match splitKeyValue (metaText line) with
      | none => declaresTableLoop tableName lines
      | some (key, value) =>
          if key = ascii "table" ∧ value = tableName then true
          else declaresTableLoop tableName lines

def metaPath (dir : SchemaDir) (filename : Bytes) : Bytes :=
  dir.path ++ ascii "/" ++ filename

def metaOpenError (dir : SchemaDir) (filename : Bytes) (errno : Errno) : Bytes :=
  formatSystemError (ascii "failed to open schema meta file")
    (metaPath dir filename) errno

def fileDeclaresTable (dir : SchemaDir) (filename tableName : Bytes) :
    Except Bytes Bool :=
  match dir.isRegular filename with
  | .error errno => .error (metaOpenError dir filename errno)
  | .ok false =>
      .error (message (ascii "failed to open schema meta file '" ++
        metaPath dir filename ++ ascii "': not a regular file"))
  | .ok true =>
      match dir.openFile filename with
      | .error errno => .error (metaOpenError dir filename errno)
      | .ok contents =>
          .ok (declaresTableLoop tableName (readLines lineSize contents))

/-- The directory walk of `find_schema_path`. -/
def findDeclaringFile (dir : SchemaDir) (tableName : Bytes) :
    List Bytes -> Except Bytes Bytes
  | [] => .error (ascii "schema meta file does not exist")
  | entry :: entries =>
      if hasMetaExtension entry then
        match fileDeclaresTable dir entry tableName with
        | .error text => .error text
        | .ok true => .ok entry
        | .ok false => findDeclaringFile dir tableName entries
      else findDeclaringFile dir tableName entries

def findSchemaPath (dir : SchemaDir) (tableName : Bytes) : Except Bytes Bytes :=
  let walk :=
    match dir.entries with
    | .error errno =>
        .error (formatSystemError (ascii "failed to open schema directory")
          dir.path errno)
    | .ok entries => findDeclaringFile dir tableName entries
  match dir.openFile (tableName ++ ascii ".meta") with
  | .ok _ => .ok (tableName ++ ascii ".meta")
  | .error .noEntry => walk
  | .error .notDirectory => walk
  | .error .illegalSequence => walk
  | .error errno =>
      .error (metaOpenError dir (tableName ++ ascii ".meta") errno)

/-!
## Reading the meta file
-/

structure MetaFields where
  tableName : Option Bytes
  columns : List Bytes
deriving DecidableEq

/-- The loop of `load_schema` over the meta file. -/
def readMetaLoop : List Bytes -> MetaFields -> Except Bytes MetaFields
  | [], fields => .ok fields
  | line :: lines, fields =>
      if metaText line = [] then readMetaLoop lines fields
      else
        match splitKeyValue (metaText line) with
        | none => .error (ascii "invalid schema meta format")
        | some (key, value) =>
            if key = ascii "table" then
              readMetaLoop lines { fields with tableName := some value }
            else if key = ascii "columns" then
              match csvParseLine value with
              | .error text => .error text
              | .ok columns => readMetaLoop lines { fields with columns := columns }
            else readMetaLoop lines fields

/-- The checks of `validate_csv_header` on the text of the first line. -/
def checkHeaderText (schema : Schema) (text : Bytes) : Except Bytes Unit :=
  match csvParseLine text with
  | .error error => .error error
  | .ok header =>
      if header.length ≠ schema.columns.length then
        .error (ascii "CSV header does not match schema column count")
      else if header ≠ schema.columns then
        .error (ascii "CSV header does not match schema column order")
      else .ok ()

def validateCsvHeader (dir : DataDir) (schema : Schema) : Except Bytes Unit :=
  match dir.files schema.storageName with
  | .error errno =>
      .error (formatSystemError (ascii "failed to open table data file")
        (buildPath dir.path schema.storageName (ascii ".csv")) errno)
  | .ok file =>
      match headerText file.contents with
      | none => .error (ascii "table data file is empty")
      | some text => checkHeaderText schema text

/-- The part of `load_schema` that reads only the schema directory. -/
def readSchema (schemaDir : SchemaDir) (tableName : Bytes) :
    Except Bytes Schema :=
  match findSchemaPath schemaDir tableName with
  | .error text => .error text
  | .ok filename =>
      match schemaDir.openFile filename with
      | .error errno => .error (metaOpenError schemaDir filename errno)
      | .ok contents =>
          match readMetaLoop (readLines lineSize contents)
              { tableName := none, columns := [] } with
          | .error text => .error text
          | .ok { tableName := none, .. } =>
              .error (ascii "schema meta file is missing required fields")
          | .ok { tableName := some declared, columns := columns } =>
              let schema : Schema :=
                { tableName := declared
                  storageName := extractStorageName (metaPath schemaDir filename)
                  columns := columns }
              if columns = [] then
                .error (ascii "schema meta file is missing required fields")
              else if schemaHasReservedIdColumn schema then
                .error (ascii
                  "reserved column name 'id' is not allowed in user schema")
              else if schema.tableName ≠ tableName ∧
                  schema.storageName ≠ tableName then
                .error (ascii
                  "schema table name does not match requested table")
              else .ok schema

def loadSchema (schemaDir : SchemaDir) (dataDir : DataDir) (tableName : Bytes) :
    Except Bytes Schema :=
  match readSchema schemaDir tableName with
  | .error text => .error text
  | .ok schema =>
      match validateCsvHeader dataDir schema with
      | .error text => .error text
      | .ok () => .ok schema

theorem loadSchema_eq_ok_iff {schemaDir : SchemaDir} {dataDir : DataDir}
    {tableName : Bytes} {schema : Schema} :
    loadSchema schemaDir dataDir tableName = .ok schema <->
      readSchema schemaDir tableName = .ok schema ∧
        validateCsvHeader dataDir schema = .ok () := by
  unfold loadSchema
  cases readSchema schemaDir tableName with
  | error text => simp
  | ok found =>
      simp only [Except.ok.injEq]
      cases hheader : validateCsvHeader dataDir found with
      | error text =>
          simp only [reduceCtorEq, false_iff, not_and]
          intro hfound
          subst hfound
          simp [hheader]
      | ok =>
          simp only [Except.ok.injEq, iff_self_and]
          intro hfound
          rwa [← hfound]

theorem contents_of_validateCsvHeader {dataDir : DataDir} {schema : Schema}
    (h : validateCsvHeader dataDir schema = .ok ()) :
    exists file,
      dataDir.files schema.storageName = .ok file ∧ file.contents ≠ [] ∧
        exists text,
          headerText file.contents = some text ∧
            checkHeaderText schema text = .ok () := by
  unfold validateCsvHeader at h
  cases hfile : dataDir.files schema.storageName with
  | error errno => simp [hfile] at h
  | ok file =>
      simp only [hfile] at h
      cases htext : headerText file.contents with
      | none => simp [htext] at h
      | some text =>
          simp only [htext] at h
          refine ⟨file, rfl, ?_, text, htext, h⟩
          intro hempty
          simp [hempty, headerText, fgets] at htext

/-- What `load_schema` guarantees about the columns it returns. -/
structure SchemaAccepted (schema : Schema) : Prop where
  columns_ne_nil : schema.columns ≠ []
  id_not_column : ascii "id" ∉ schema.columns

theorem schemaFindColumn_eq_none_iff {schema : Schema} {columnName : Bytes} :
    schemaFindColumn schema columnName = none <->
      columnName ∉ schema.columns := by
  unfold schemaFindColumn stringListIndexOf
  rw [List.findIdx?_eq_none_iff]
  constructor
  · intro h hmem
    simpa using h columnName hmem
  · intro h column hcolumn
    have hne : column ≠ columnName := fun heq => h (heq ▸ hcolumn)
    simpa using hne

theorem readSchema_accepted {schemaDir : SchemaDir} {tableName : Bytes}
    {schema : Schema} (h : readSchema schemaDir tableName = .ok schema) :
    SchemaAccepted schema := by
  unfold readSchema at h
  split at h
  · simp at h
  · split at h
    · simp at h
    · split at h
      · simp at h
      · simp at h
      · simp only at h
        split at h
        · simp at h
        · rename_i hcolumns
          split at h
          · simp at h
          · rename_i hreserved
            split at h
            · simp at h
            · simp only [Except.ok.injEq] at h
              rw [← h]
              refine ⟨hcolumns, ?_⟩
              rw [← schemaFindColumn_eq_none_iff]
              simpa [schemaHasReservedIdColumn] using hreserved

end Storage
end SqlCsvServer
