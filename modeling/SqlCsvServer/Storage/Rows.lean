import SqlCsvServer.Foundation.LineReader
import SqlCsvServer.Storage.Csv

/-!
# Table files and the row operations of `storage/storage.c`

The data directory maps a storage name to what `fopen` finds there.  A read
meets no failure once the file is open.  Writing may fail at any library call
that `append_row_csv` makes, which an `AppendFault` describes.
-/

namespace SqlCsvServer
namespace Storage

open Foundation Common

/-!
## The data directory
-/

/-- A CSV file, and the error of opening it for update if there is one. -/
structure CsvFile where
  contents : Bytes
  updateError : Option Errno

/-- The data directory: its path, and the file of each storage name. -/
structure DataDir where
  path : Bytes
  files : Bytes -> Except Errno CsvFile

namespace DataDir

/-- The bytes of the file behind a storage name. -/
def contents (dir : DataDir) (name : Bytes) : Option Bytes :=
  match dir.files name with
  | .error _ => none
  | .ok file => some file.contents

def write (dir : DataDir) (name contents : Bytes) : DataDir :=
  { dir with
    files := fun other =>
      if other = name then
        match dir.files name with
        | .error errno => .error errno
        | .ok file => .ok { file with contents := contents }
      else dir.files other }

end DataDir

def openTableFile (dir : DataDir) (tableName : Bytes) : Except Bytes Bytes :=
  match dir.files tableName with
  | .error errno =>
      .error (formatSystemError (ascii "failed to open table file")
        (buildPath dir.path tableName (ascii ".csv")) errno)
  | .ok file => .ok file.contents

/-- `open_table_file` with mode `"r+b"`. -/
def openTableFileForUpdate (dir : DataDir) (tableName : Bytes) :
    Except Bytes Bytes :=
  match dir.files tableName with
  | .error errno =>
      .error (formatSystemError (ascii "failed to open table file")
        (buildPath dir.path tableName (ascii ".csv")) errno)
  | .ok file =>
      match file.updateError with
      | some errno =>
          .error (formatSystemError (ascii "failed to open table file")
            (buildPath dir.path tableName (ascii ".csv")) errno)
      | none => .ok file.contents

/-!
## Appending a row
-/

/-- The library calls of `append_row_csv` that can fail. -/
inductive AppendCall where
  | seekEnd
  | measure
  | inspect
  | rewind
  | separator
  | offset
  | escape (index : Nat)
  | comma (index : Nat)
  | field (index : Nat)
  | close
deriving DecidableEq

/--
One failing call, and how many of the bytes handed to the stream up to and
including that call reach the file.
-/
structure AppendFault where
  call : AppendCall
  reached : Nat
deriving DecidableEq

def callFails (fault : Option AppendFault) (call : AppendCall) : Bool :=
  fault.map AppendFault.call == some call

def flushed (fault : Option AppendFault) (handed : Bytes) : Bytes :=
  match fault with
  | none => handed
  | some fault => handed.take fault.reached

structure StorageResult where
  ok : Bool
  message : Bytes
  affectedRows : Nat
  rowOffset : Int
deriving DecidableEq

def storageFailure (rowOffset : Int) (text : Bytes) : StorageResult :=
  { ok := false, message := text, affectedRows := 0, rowOffset := rowOffset }

def lineSeparator (contents : Bytes) : Bytes :=
  match contents.getLast? with
  | none => []
  | some lastCharacter =>
      if lastCharacter ≠ Byte.lineFeed then [Byte.lineFeed] else []

def writeFields (fault : Option AppendFault) :
    Nat -> List Bytes -> Bytes × Option Bytes
  | _, [] => ([], none)
  | index, value :: values =>
      let comma := if 0 < index then [Byte.comma] else []
      if callFails fault (.escape index) then
        ([], some (ascii "out of memory while writing CSV row"))
      else if 0 < index ∧ callFails fault (.comma index) then
        (comma, some (ascii "failed to write CSV separator"))
      else if callFails fault (.field index) then
        (comma ++ csvEscapeField value,
          some (ascii "failed to write CSV field"))
      else
        let written := writeFields fault (index + 1) values
        (comma ++ csvEscapeField value ++ written.1, written.2)

/-- `append_row_csv` on an open file: the new contents and the result. -/
def appendRow (contents : Bytes) (rowValues : List Bytes)
    (fault : Option AppendFault) : Bytes × StorageResult :=
  let separator := lineSeparator contents
  let rowOffset : Int := (contents ++ separator).length
  if callFails fault .seekEnd then
    (contents, storageFailure (-1) (ascii "failed to seek table file"))
  else if callFails fault .measure then
    (contents, storageFailure (-1) (ascii "failed to measure table file"))
  else if contents ≠ [] ∧ callFails fault .inspect then
    (contents, storageFailure (-1) (ascii "failed to inspect table file"))
  else if contents ≠ [] ∧ callFails fault .rewind then
    (contents, storageFailure (-1) (ascii "failed to rewind table file"))
  else if separator ≠ [] ∧ callFails fault .separator then
    (contents ++ flushed fault separator,
      storageFailure (-1) (ascii "failed to write line separator"))
  else if callFails fault .offset then
    (contents ++ flushed fault separator,
      storageFailure (-1) (ascii "failed to determine row offset"))
  else
    match writeFields fault 0 rowValues with
    | (written, some text) =>
        (contents ++ flushed fault (separator ++ written),
          storageFailure rowOffset text)
    | (written, none) =>
        (contents ++
            (if callFails fault .close then flushed fault (separator ++ written)
              else separator ++ written),
          { ok := true
            message := ascii "INSERT 1"
            affectedRows := 1
            rowOffset := rowOffset })

def appendRowCsv (dir : DataDir) (tableName : Bytes) (rowValues : List Bytes)
    (fault : Option AppendFault) : DataDir × StorageResult :=
  match openTableFileForUpdate dir tableName with
  | .error text => (dir, storageFailure (-1) text)
  | .ok contents =>
      let appended := appendRow contents rowValues fault
      (dir.write tableName appended.1, appended.2)

/-!
## Reading rows
-/

/-- `sizeof(line)` in every loop over a table file. -/
def lineSize : Nat := 4096

/-- The C string that `strip_line_endings` leaves in the line buffer. -/
def lineText (line : Bytes) : Bytes :=
  stripLineEndings (cString line)

/-- `read_row_at_offset_csv` on an open file. -/
def readRowAtOffset (contents : Bytes) (rowOffset : Int) :
    Except Bytes (List Bytes) :=
  if rowOffset < 0 then .error (ascii "failed to seek row offset")
  else
    match fgets lineSize (contents.drop rowOffset.toNat) with
    | none => .error (ascii "failed to read row at offset")
    | some (line, _) =>
        if lineText line = [] then .error (ascii "row at offset is empty")
        else csvParseLine (lineText line)

def readRowAtOffsetCsv (dir : DataDir) (tableName : Bytes) (rowOffset : Int) :
    Except Bytes (List Bytes) :=
  match openTableFile dir tableName with
  | .error text => .error text
  | .ok contents => readRowAtOffset contents rowOffset

section Scan

variable {σ : Type}

/--
The loop of `scan_rows_csv`.  A visitor gets the fields and the offset of a
row, updates its context, and may report an error.
-/
def scanLoop (visitor : List Bytes -> Int -> σ -> σ × Option Bytes) :
    List (Nat × Bytes) -> σ -> σ × Option Bytes
  | [], context => (context, none)
  | (rowOffset, line) :: lines, context =>
      if lineText line = [] then scanLoop visitor lines context
      else
        match csvParseLine (lineText line) with
        | .error text => (context, some text)
        | .ok fields =>
            match visitor fields rowOffset context with
            | (context, some text) => (context, some text)
            | (context, none) => scanLoop visitor lines context

/-- `scan_rows_csv` on an open file. -/
def scanRows (contents : Bytes)
    (visitor : List Bytes -> Int -> σ -> σ × Option Bytes) (context : σ) :
    σ × Option Bytes :=
  match fgets lineSize contents with
  | none => (context, some (ascii "table data file is empty"))
  | some (header, rest) =>
      scanLoop visitor (withOffsets header.length (readLines lineSize rest))
        context

def scanRowsCsv (dir : DataDir) (tableName : Bytes)
    (visitor : List Bytes -> Int -> σ -> σ × Option Bytes) (context : σ) :
    σ × Option Bytes :=
  match openTableFile dir tableName with
  | .error text => (context, some text)
  | .ok contents => scanRows contents visitor context

end Scan

end Storage
end SqlCsvServer
