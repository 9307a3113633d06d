import SqlCsvServer.Storage.Append

/-!
# An append leaves the rows before it alone

A scan hands a visitor the data lines one after another.  After an append the
lines of the old contents come first and unchanged, and the lines cut from the
new row follow.
-/

namespace SqlCsvServer
namespace Storage

open Foundation Common

/-!
## Scans as walks over the data lines
-/

section Visits

variable {σ : Type} (visitor : List Bytes -> Int -> σ -> σ × Option Bytes)

def visitLines : List (Nat × Bytes) -> σ -> σ × Option Bytes
  | [], context => (context, none)
  | (offset, text) :: lines, context =>
      match csvParseLine text with
      | .error error => (context, some error)
      | .ok fields =>
          match visitor fields offset context with
          | (context, some error) => (context, some error)
          | (context, none) => visitLines lines context

theorem scanLoop_eq_visitLines (lines : List (Nat × Bytes)) (context : σ) :
    scanLoop visitor lines context =
      visitLines visitor (textLines lines) context := by
  induction lines generalizing context with
  | nil => rfl
  | cons line lines ih =>
      rcases line with ⟨offset, line⟩
      by_cases hblank : lineText line = []
      · simp only [scanLoop, textLines, hblank, if_true]
        exact ih context
      · simp only [scanLoop, textLines, hblank, if_false, visitLines]
        cases csvParseLine (lineText line) with
        | error error => rfl
        | ok fields =>
            simp only
            rcases visitor fields offset context with ⟨context, _ | error⟩
            · exact ih context
            · rfl

theorem scanRows_eq_visitLines {contents : Bytes} (hne : contents ≠ [])
    (context : σ) :
    scanRows contents visitor context =
      visitLines visitor (dataLines contents) context := by
  unfold scanRows dataLines
  rw [fgets_eq_takeLine _ hne]
  exact scanLoop_eq_visitLines visitor _ context

theorem visitLines_split (a b : List (Nat × Bytes)) (context : σ) :
    visitLines visitor (a ++ b) context =
      match visitLines visitor a context with
      | (context, some error) => (context, some error)
      | (context, none) => visitLines visitor b context := by
  induction a generalizing context with
  | nil => rfl
  | cons line a ih =>
      rcases line with ⟨offset, text⟩
      simp only [List.cons_append, visitLines]
      cases csvParseLine text with
      | error error => rfl
      | ok fields =>
          simp only
          rcases visitor fields offset context with ⟨context, _ | error⟩
          · exact ih context
          · rfl

theorem visitLines_of_parseLines {lines : List (Nat × Bytes)}
    {rows : List (Nat × List Bytes)} (h : parseLines lines = .ok rows)
    (context : σ) :
    visitLines visitor lines context = visitRows visitor rows context := by
  induction lines generalizing rows context with
  | nil =>
      simp only [parseLines, Except.ok.injEq] at h
      subst h
      rfl
  | cons line lines ih =>
      rcases line with ⟨offset, text⟩
      simp only [parseLines] at h
      cases hfields : csvParseLine text with
      | error error => simp [hfields] at h
      | ok fields =>
          cases hrest : parseLines lines with
          | error error => simp [hfields, hrest] at h
          | ok rest =>
              simp only [hfields, hrest, Except.ok.injEq] at h
              subst h
              simp only [visitLines, hfields, visitRows]
              rcases visitor fields offset context with ⟨context, _ | error⟩
              · exact ih hrest context
              · rfl

end Visits

/-!
## The visits of a scan
-/

/-- A visitor that writes down what it is given. -/
def recordRow (fields : List Bytes) (rowOffset : Int)
    (visits : List (Int × List Bytes)) :
    List (Int × List Bytes) × Option Bytes :=
  (visits ++ [(rowOffset, fields)], none)

def visitOf (row : Nat × List Bytes) : Int × List Bytes :=
  (row.1, row.2)

theorem visitRows_recordRow (rows : List (Nat × List Bytes))
    (visits : List (Int × List Bytes)) :
    visitRows recordRow rows visits = (visits ++ rows.map visitOf, none) := by
  induction rows generalizing visits with
  | nil => simp [visitRows]
  | cons row rows ih =>
      rcases row with ⟨offset, fields⟩
      simp [visitRows, recordRow, ih, visitOf]

theorem visitLines_recordRow (lines : List (Nat × Bytes))
    (visits : List (Int × List Bytes)) :
    exists more error,
      visitLines recordRow lines visits = (visits ++ more, error) ∧
        more.length ≤ lines.length ∧
        forall i (hi : i < more.length) (hi' : i < lines.length),
          more[i].1 = lines[i].1 ∧
            csvParseLine lines[i].2 = .ok more[i].2 := by
  induction lines generalizing visits with
  | nil => exact ⟨[], none, by simp [visitLines], by simp, by simp⟩
  | cons line lines ih =>
      rcases line with ⟨offset, text⟩
      cases hfields : csvParseLine text with
      | error error =>
          exact ⟨[], some error, by simp [visitLines, hfields], by simp,
            by simp⟩
      | ok fields =>
          rcases ih (visits ++ [((offset : Int), fields)]) with
            ⟨more, error, hwalk, hlength, hmore⟩
          refine ⟨((offset : Int), fields) :: more, error, ?_, ?_, ?_⟩
          · simp [visitLines, hfields, recordRow, hwalk]
          · simpa using hlength
          · intro i hi hi'
            cases i with
            | zero => exact ⟨rfl, hfields⟩
            | succ i =>
                simp only [List.length_cons, Nat.add_lt_add_iff_right] at hi hi'
                exact hmore i hi hi'

/-!
## The pieces of a row
-/

/-- A piece of a row as long as the line buffer takes at once. -/
def rowPiece (row : Bytes) (i : Nat) : Bytes :=
  (row.drop ((lineSize - 1) * i)).take (lineSize - 1)

theorem linesWritten_getElem (i : Nat) :
    forall {row : Bytes} {offset : Nat}, row ≠ [] ->
      (forall b, b ∈ row -> b ≠ Byte.nul ∧ isLineEnding b = false) ->
      forall hi : i < (linesWritten offset row).length,
        (linesWritten offset row)[i] =
          (offset + (lineSize - 1) * i, rowPiece row i) := by
  induction i with
  | zero =>
      intro row offset hne hrow hi
      rcases Nat.lt_or_ge (lineSize - 1) row.length with hlong | hfits
      · simp [linesWritten_of_long hrow hlong, rowPiece]
      · simp [linesWritten_of_fits hne hrow hfits, rowPiece,
          List.take_of_length_le hfits]
  | succ i ih =>
      intro row offset hne hrow hi
      rcases Nat.lt_or_ge (lineSize - 1) row.length with hlong | hfits
      · have hrest : row.drop (lineSize - 1) ≠ [] := by
          intro hnil
          have hlength := congrArg List.length hnil
          rw [List.length_drop, List.length_nil] at hlength
          omega
        have hlines := linesWritten_of_long hrow hlong offset
        simp only [hlines, List.length_cons, Nat.add_lt_add_iff_right] at hi
        have hpiece := ih hrest
          (fun b hb => hrow b (List.mem_of_mem_drop hb)) hi
        simp only [hlines, List.getElem_cons_succ, hpiece, rowPiece,
          List.drop_drop, Prod.mk.injEq]
        constructor
        · rw [Nat.mul_succ]
          omega
        · rw [Nat.mul_succ, Nat.add_comm]
      · rw [linesWritten_of_fits hne hrow hfits] at hi
        simp at hi

/-!
## Appending to a table
-/

section Append

variable {dataDir : DataDir} {name contents : Bytes} {rowValues : List Bytes}

theorem appendRowCsv_complete
    (hfile : dataDir.files name =
      .ok { contents := contents, updateError := none }) :
    (appendRowCsv dataDir name rowValues none).2.ok = true ∧
      (appendRowCsv dataDir name rowValues none).2.rowOffset =
        (contents ++ lineSeparator contents).length ∧
      (appendRowCsv dataDir name rowValues none).1.files name =
        .ok
          { contents := contents ++ lineSeparator contents ++ csvRow rowValues
            updateError := none } := by
  have hok := appendRow_noFault contents rowValues
  have happend := appendRow_ok hok rfl
  unfold appendRowCsv openTableFileForUpdate
  simp only [hfile, DataDir.write, if_true]
  refine ⟨hok, happend.1, ?_⟩
  rw [happend.2]

theorem scanRowsCsv_of_file {σ : Type} {dir : DataDir}
    (hfile : dir.files name = .ok { contents := contents, updateError := none })
    (visitor : List Bytes -> Int -> σ -> σ × Option Bytes) (context : σ) :
    scanRowsCsv dir name visitor context =
      scanRows contents visitor context := by
  simp [scanRowsCsv, openTableFile, hfile]

theorem scanRowsCsv_recordRow {dir : DataDir}
    (hfile : dir.files name = .ok { contents := contents, updateError := none })
    (hscan : (scanRowsCsv dir name recordRow []).2 = none) :
    exists rows,
      contents ≠ [] ∧ parseLines (dataLines contents) = .ok rows ∧
        scanRowsCsv dir name recordRow [] = (rows.map visitOf, none) := by
  rw [scanRowsCsv_of_file hfile] at hscan ⊢
  rcases parseLines_of_scanRows recordRow hscan with ⟨hne, rows, hrows⟩
  refine ⟨rows, hne, hrows, ?_⟩
  rw [scanRows_of_parseLines recordRow hne hrows, visitRows_recordRow,
    List.nil_append]

theorem readRowAtOffset_append {rows : List (Nat × List Bytes)}
    (hne : contents ≠ []) (hrows : parseLines (dataLines contents) = .ok rows)
    {visit : Int × List Bytes} (hvisit : visit ∈ rows.map visitOf)
    (text : Bytes) :
    readRowAtOffset (contents ++ lineSeparator contents ++ text) visit.1 =
      readRowAtOffset contents visit.1 := by
  rcases List.mem_map.mp hvisit with ⟨⟨offset, fields⟩, hmem, hrow⟩
  rw [← hrow]
  rcases List.forall₂_iff_get.mp (parseLines_forall hrows) with
    ⟨hlength, hlines⟩
  rcases List.getElem_of_mem hmem with ⟨i, hi, hget⟩
  have hpair := hlines i (hlength ▸ hi) hi
  simp only [List.get_eq_getElem, hget] at hpair
  have hold : (offset, (dataLines contents)[i].2) ∈ dataLines contents := by
    rw [← hpair.1]
    exact List.getElem_mem _
  have hnew : (offset, (dataLines contents)[i].2) ∈
      dataLines (contents ++ lineSeparator contents ++ text) := by
    rw [(dataLines_append hne text).2]
    exact List.mem_append_left _ hold
  change readRowAtOffset _ (offset : Int) = readRowAtOffset _ (offset : Int)
  rw [readRowAtOffset_of_mem hnew, readRowAtOffset_of_mem hold]

/--
A complete append keeps the old bytes in front, every old row at its offset, and
the visits of a scan; what the scan visits behind them are pieces of the new row,
the first one at the returned offset.
-/
theorem append_keeps_old_rows
    (hfile : dataDir.files name =
      .ok { contents := contents, updateError := none })
    (hscan : (scanRowsCsv dataDir name recordRow []).2 = none)
    (hrow : rowValues ≠ [])
    (hvalues : forall value, value ∈ rowValues ->
      NulFree value ∧ value.any isLineEnding = false) :
    exists (dir : DataDir) (result : StorageResult) (rowOffset : Nat)
        (written : Bytes) (more : List (Int × List Bytes))
        (error : Option Bytes),
      appendRowCsv dataDir name rowValues none = (dir, result) ∧
        result.ok = true ∧ result.rowOffset = rowOffset ∧
        dir.files name = .ok { contents := written, updateError := none } ∧
        contents <+: written ∧
        written.drop rowOffset = csvRow rowValues ∧
        (forall visit, visit ∈ (scanRowsCsv dataDir name recordRow []).1 ->
          readRowAtOffsetCsv dir name visit.1 =
            readRowAtOffsetCsv dataDir name visit.1) ∧
        scanRowsCsv dir name recordRow [] =
          ((scanRowsCsv dataDir name recordRow []).1 ++ more, error) ∧
        forall i (hi : i < more.length),
          more[i].1 = ((rowOffset + (lineSize - 1) * i : Nat) : Int) ∧
            csvParseLine (rowPiece (csvRow rowValues) i) = .ok more[i].2 := by
  rcases scanRowsCsv_recordRow hfile hscan with ⟨rows, hne, hrows, hvisits⟩
  rcases @appendRowCsv_complete dataDir name contents rowValues hfile with
    ⟨hok, hoffset, hnew⟩
  rcases happend : appendRowCsv dataDir name rowValues none with ⟨dir, result⟩
  simp only [happend] at hok hoffset hnew
  have hnotEmpty :
      contents ++ lineSeparator contents ++ csvRow rowValues ≠ [] := by
    simp [hne]
  rcases visitLines_recordRow
      (linesWritten (contents ++ lineSeparator contents).length
        (csvRow rowValues))
      (rows.map visitOf) with
    ⟨more, error, hwalk, hlength, hmore⟩
  refine ⟨dir, result, _, _, more, error, rfl, hok, hoffset, hnew, ?_, ?_, ?_,
    ?_, ?_⟩
  · rw [List.append_assoc]
    exact List.prefix_append _ _
  · exact List.drop_left
  · intro visit hvisit
    rw [hvisits] at hvisit
    unfold readRowAtOffsetCsv openTableFile
    simp only [hnew, hfile]
    exact readRowAtOffset_append hne hrows hvisit _
  · rw [scanRowsCsv_of_file hnew, hvisits,
      scanRows_eq_visitLines recordRow hnotEmpty, (dataLines_append hne _).2,
      visitLines_split, visitLines_of_parseLines recordRow hrows,
      visitRows_recordRow, List.nil_append]
    exact hwalk
  · intro i hi
    have hline := hmore i hi (Nat.lt_of_lt_of_le hi hlength)
    rw [linesWritten_getElem i (csvRow_ne_nil hrow) (csvRow_bytes hvalues)]
      at hline
    exact hline

end Append

def oneTableDir : DataDir :=
  { path := ascii "data"
    files := fun _ =>
      .ok { contents := ascii "name\na\n\nb", updateError := none } }

theorem append_keeps_old_rows_sample :
    exists (dir : DataDir) (result : StorageResult) (rowOffset : Nat)
        (written : Bytes) (more : List (Int × List Bytes))
        (error : Option Bytes),
      appendRowCsv oneTableDir (ascii "t") sampleRow none = (dir, result) ∧
        result.ok = true ∧ result.rowOffset = rowOffset ∧
        dir.files (ascii "t") =
          .ok { contents := written, updateError := none } ∧
        ascii "name\na\n\nb" <+: written ∧
        written.drop rowOffset = csvRow sampleRow ∧
        (forall visit,
          visit ∈ (scanRowsCsv oneTableDir (ascii "t") recordRow []).1 ->
            readRowAtOffsetCsv dir (ascii "t") visit.1 =
              readRowAtOffsetCsv oneTableDir (ascii "t") visit.1) ∧
        scanRowsCsv dir (ascii "t") recordRow [] =
          ((scanRowsCsv oneTableDir (ascii "t") recordRow []).1 ++ more, error) ∧
        forall i (hi : i < more.length),
          more[i].1 = ((rowOffset + (lineSize - 1) * i : Nat) : Int) ∧
            csvParseLine (rowPiece (csvRow sampleRow) i) = .ok more[i].2 := by
  apply append_keeps_old_rows
  · rfl
  · decide
  · decide
  · decide

end Storage
end SqlCsvServer
