import Mathlib.Algebra.Ring.Nat
import SqlCsvServer.Common.DisplayWidth
import SqlCsvServer.Execution.Select

/-!
# The printed table is aligned

A line of the table is a separator, a cell and so on up to a last separator.  Its
cells are padded to the width of their column, so the separators of all lines stand
below each other.
-/

namespace SqlCsvServer
namespace Execution

open Foundation Common Storage Index Sql

/-!
## Lines and their separators
-/

/-- A line of the table: its separator, and what it puts between two of them. -/
structure TableLine where
  separator : Byte
  cells : List Bytes

/-- What a line has written before one of its separators. -/
def TableLine.before (line : TableLine) (index : Nat) : Bytes :=
  (line.cells.take index).flatMap fun cell => line.separator :: cell

/-- The whole line. -/
def TableLine.text (line : TableLine) : Bytes :=
  line.before line.cells.length ++ [line.separator]

/-- What `print_table_border` writes for a column. -/
def borderCell (columnWidth : Nat) : Bytes :=
  List.replicate (columnWidth + 2) 0x2D

/-- What `print_table_row` writes for a column. -/
def paddedCell (cell : Bytes) (columnWidth : Nat) : Bytes :=
  Byte.space :: cell ++
    List.replicate (columnWidth - utf8DisplayWidth cell) Byte.space ++ [Byte.space]

def borderLine (columnWidths : List Nat) : TableLine :=
  { separator := 0x2B, cells := columnWidths.map borderCell }

def rowLine (row : List Bytes) (columnWidths : List Nat) : TableLine :=
  { separator := 0x7C, cells := List.zipWith paddedCell row columnWidths }

/-- The lines of `print_result_table`. -/
def tableLines (table : ResultTable) : List TableLine :=
  let columnWidths := computeTableWidths table
  borderLine columnWidths :: rowLine table.headers columnWidths ::
    borderLine columnWidths ::
      (table.rows.map (fun row => rowLine row columnWidths) ++
        [borderLine columnWidths])

theorem separated_eq (separator : Byte) (cells : List Bytes) :
    separator :: cells.flatMap (fun cell => cell ++ [separator]) =
      cells.flatMap (fun cell => separator :: cell) ++ [separator] := by
  induction cells with
  | nil => rfl
  | cons cell cells ih =>
      rw [List.flatMap_cons, List.flatMap_cons, List.append_assoc, List.append_assoc, ← ih]
      rfl

theorem TableLine.text_eq (line : TableLine) :
    line.text = line.separator :: line.cells.flatMap (fun cell => cell ++ [line.separator]) := by
  unfold TableLine.text TableLine.before
  rw [List.take_length, separated_eq]

theorem tableBorder_eq (columnWidths : List Nat) :
    tableBorder columnWidths = (borderLine columnWidths).text ++ ascii "\n" := by
  rw [TableLine.text_eq]
  unfold tableBorder borderLine
  rw [List.flatMap_map]
  rfl

theorem tableRow_eq (row : List Bytes) (columnWidths : List Nat) :
    tableRow row columnWidths = (rowLine row columnWidths).text ++ ascii "\n" := by
  rw [TableLine.text_eq]
  unfold tableRow rowLine
  have hcells : List.zipWith paddedCell row columnWidths =
      (row.zip columnWidths).map fun cell => paddedCell cell.1 cell.2 := by
    rw [List.zip, List.map_zipWith]
  rw [hcells, List.flatMap_map]
  have hcell : forall cell : Bytes × Nat,
      ascii " " ++ cell.1 ++
          List.replicate (cell.2 - utf8DisplayWidth cell.1) Byte.space ++ ascii " |" =
        paddedCell cell.1 cell.2 ++ [0x7C] := by
    intro cell
    unfold paddedCell
    rw [show ascii " |" = [Byte.space] ++ [0x7C] from rfl, ← List.append_assoc]
    rfl
  simp only [hcell]
  rfl

theorem printResultTable_eq (table : ResultTable) :
    printResultTable table =
      (tableLines table).flatMap fun line => line.text ++ ascii "\n" := by
  unfold printResultTable tableLines
  simp only [tableBorder_eq, tableRow_eq, List.flatMap_cons, List.flatMap_append,
    List.flatMap_map, List.flatMap_nil, List.append_nil, List.append_assoc]

/-!
## Widths
-/

theorem space_printable : (0x20 : Byte) ≤ Byte.space ∧ Byte.space < 0x7F := by
  decide

def TableLine.Printable (line : TableLine) : Prop :=
  0x20 ≤ line.separator ∧ line.separator < 0x7F

section Line

variable {line : TableLine}

theorem TableLine.before_succ {index : Nat} (h : index < line.cells.length) :
    line.before (index + 1) =
      line.before index ++ line.separator :: line.cells[index] := by
  unfold TableLine.before
  rw [List.take_succ_eq_append_getElem h, List.flatMap_append]
  simp only [List.flatMap_cons, List.flatMap_nil, List.append_nil]

theorem TableLine.before_width (hline : line.Printable) {index : Nat}
    (hindex : index ≤ line.cells.length) :
    utf8DisplayWidth (line.before index) =
      ((line.cells.take index).map fun cell => 1 + utf8DisplayWidth cell).sum := by
  induction index with
  | zero => rfl
  | succ index ih =>
      have hlt : index < line.cells.length := hindex
      rw [TableLine.before_succ hlt, utf8DisplayWidth_append (startsAfresh_ascii hline _),
        utf8DisplayWidth_ascii hline, ih (Nat.le_of_lt hlt),
        List.take_succ_eq_append_getElem hlt, List.map_append, List.sum_append]
      simp only [List.map_cons, List.map_nil, List.sum_cons, List.sum_nil, Nat.add_zero]

theorem TableLine.text_width (hline : line.Printable) :
    utf8DisplayWidth line.text =
      utf8DisplayWidth (line.before line.cells.length) + 1 := by
  unfold TableLine.text
  rw [utf8DisplayWidth_append (startsAfresh_ascii hline _), utf8DisplayWidth_ascii hline]
  rfl

theorem TableLine.before_prefix {index : Nat} (hindex : index ≤ line.cells.length) :
    line.before index ++ [line.separator] <+: line.text := by
  unfold TableLine.text
  rcases Nat.lt_or_eq_of_le hindex with hlt | rfl
  · have hmore : line.before index ++ line.separator :: line.cells[index] <+:
        line.before line.cells.length := by
      rw [← TableLine.before_succ hlt]
      unfold TableLine.before
      rw [List.take_length]
      exact (List.take_prefix _ _).flatMap _
    refine List.IsPrefix.trans ?_ (hmore.trans (List.prefix_append _ _))
    exact ⟨line.cells[index], by rw [List.append_assoc, List.singleton_append]⟩
  · exact List.prefix_rfl

end Line

theorem paddedCell_width {cell : Bytes} {columnWidth : Nat}
    (h : utf8DisplayWidth cell ≤ columnWidth) :
    utf8DisplayWidth (paddedCell cell columnWidth) = columnWidth + 2 := by
  have hlast : utf8DisplayWidth [Byte.space] = 1 := by decide
  have hpadding : StartsAfresh
      (List.replicate (columnWidth - utf8DisplayWidth cell) Byte.space ++ [Byte.space]) := by
    cases columnWidth - utf8DisplayWidth cell with
    | zero => exact startsAfresh_ascii space_printable []
    | succ n => exact startsAfresh_ascii space_printable _
  unfold paddedCell
  rw [List.append_assoc, List.cons_append, utf8DisplayWidth_ascii space_printable,
    utf8DisplayWidth_append hpadding,
    utf8DisplayWidth_append (startsAfresh_ascii space_printable []),
    utf8DisplayWidth_replicate space_printable, hlast]
  omega

theorem borderCell_width (columnWidth : Nat) :
    utf8DisplayWidth (borderCell columnWidth) = columnWidth + 2 :=
  utf8DisplayWidth_replicate (by decide) _

/-!
## The widths of the columns
-/

theorem foldl_max_le {row : List Bytes} {rows : List (List Bytes)} {column : Nat} :
    forall {width : Nat},
      width ≤ rows.foldl
          (fun width row => max width (utf8DisplayWidth (row.getD column []))) width ∧
        (row ∈ rows -> utf8DisplayWidth (row.getD column []) ≤
          rows.foldl
            (fun width row => max width (utf8DisplayWidth (row.getD column []))) width) := by
  induction rows with
  | nil => exact ⟨Nat.le_refl _, fun h => by cases h⟩
  | cons first rows ih =>
      intro width
      rw [List.foldl_cons]
      have hnext := @ih (max width (utf8DisplayWidth (first.getD column [])))
      refine ⟨Nat.le_trans (Nat.le_max_left _ _) hnext.1, ?_⟩
      intro hrow
      rcases List.mem_cons.mp hrow with rfl | hrow
      · exact Nat.le_trans (Nat.le_max_right _ _) hnext.1
      · exact hnext.2 hrow

theorem computeTableWidths_length (table : ResultTable) :
    (computeTableWidths table).length = table.headers.length := by
  unfold computeTableWidths
  rw [List.length_map, List.length_zipIdx]

theorem getD_of_lt {row : List Bytes} {index : Nat} (h : index < row.length) :
    row.getD index [] = row[index] := by
  rw [List.getD_eq_getElem?_getD, List.getElem?_eq_getElem h, Option.getD_some]

theorem width_le_column (table : ResultTable) {index : Nat}
    (hindex : index < (computeTableWidths table).length) {row : List Bytes}
    (hrow : row = table.headers ∨ row ∈ table.rows) :
    utf8DisplayWidth (row.getD index []) ≤ (computeTableWidths table)[index] := by
  have hheader : index < table.headers.length :=
    computeTableWidths_length table ▸ hindex
  have hvalue : (computeTableWidths table)[index] =
      table.rows.foldl
        (fun width row => max width (utf8DisplayWidth (row.getD index [])))
        (utf8DisplayWidth table.headers[index]) := by
    simp [computeTableWidths]
  rw [hvalue]
  rcases hrow with rfl | hrow
  · rw [getD_of_lt hheader]
    exact (@foldl_max_le [] table.rows index _).1
  · exact foldl_max_le.2 hrow

/-!
## Alignment
-/

structure TableLine.Fills (line : TableLine) (columnWidths : List Nat) : Prop where
  printable : line.Printable
  widths : line.cells.map utf8DisplayWidth = columnWidths.map (· + 2)

def separatorColumn (columnWidths : List Nat) (index : Nat) : Nat :=
  ((columnWidths.take index).map (· + 3)).sum

theorem TableLine.Fills.length {line : TableLine} {columnWidths : List Nat}
    (h : line.Fills columnWidths) : line.cells.length = columnWidths.length := by
  have hlength := congrArg List.length h.widths
  rwa [List.length_map, List.length_map] at hlength

theorem TableLine.Fills.column {line : TableLine} {columnWidths : List Nat}
    (h : line.Fills columnWidths) {index : Nat} (hindex : index ≤ columnWidths.length) :
    utf8DisplayWidth (line.before index) = separatorColumn columnWidths index := by
  have hcells : (line.cells.take index).map (fun cell => 1 + utf8DisplayWidth cell) =
      (columnWidths.take index).map (· + 3) := by
    have hsplit : (line.cells.take index).map (fun cell => 1 + utf8DisplayWidth cell) =
        ((line.cells.map utf8DisplayWidth).take index).map (1 + ·) := by
      rw [← List.map_take, List.map_map]
      rfl
    rw [hsplit, h.widths, ← List.map_take, List.map_map]
    apply List.map_congr_left
    intro columnWidth _
    show 1 + (columnWidth + 2) = columnWidth + 3
    omega
  rw [line.before_width h.printable (h.length ▸ hindex), hcells]
  rfl

theorem borderLine_fills (columnWidths : List Nat) :
    (borderLine columnWidths).Fills columnWidths where
  printable := show (0x20 : Byte) ≤ 0x2B ∧ (0x2B : Byte) < 0x7F by decide
  widths := by
    show (columnWidths.map borderCell).map utf8DisplayWidth = _
    rw [List.map_map]
    exact List.map_congr_left fun columnWidth _ => borderCell_width columnWidth

theorem rowLine_fills {table : ResultTable} {row : List Bytes}
    (hrow : row = table.headers ∨ row ∈ table.rows)
    (hlength : row.length = table.headers.length) :
    (rowLine row (computeTableWidths table)).Fills (computeTableWidths table) where
  printable := show (0x20 : Byte) ≤ 0x7C ∧ (0x7C : Byte) < 0x7F by decide
  widths := by
    have hwidths := computeTableWidths_length table
    show (List.zipWith paddedCell row (computeTableWidths table)).map utf8DisplayWidth = _
    apply List.ext_getElem
    · simp only [List.length_map, List.length_zipWith, hlength, hwidths, Nat.min_self]
    · intro index hleft hright
      have hindex : index < (computeTableWidths table).length := by
        rwa [List.length_map] at hright
      have hcell : index < row.length := by omega
      have hfits := width_le_column table hindex hrow
      rw [getD_of_lt hcell] at hfits
      simp only [List.getElem_map, List.getElem_zipWith]
      exact paddedCell_width hfits

theorem tableLines_fill {table : ResultTable}
    (hrows : forall row, row ∈ table.rows -> row.length = table.headers.length)
    {line : TableLine} (hline : line ∈ tableLines table) :
    line.Fills (computeTableWidths table) := by
  have hborder := borderLine_fills (computeTableWidths table)
  unfold tableLines at hline
  simp only [List.mem_cons, List.mem_append, List.mem_map, List.not_mem_nil, or_false]
    at hline
  rcases hline with rfl | rfl | rfl | ⟨row, hrow, rfl⟩ | rfl
  · exact hborder
  · exact rowLine_fills (Or.inl rfl) rfl
  · exact hborder
  · exact rowLine_fills (Or.inr hrow) (hrows row hrow)
  · exact hborder

theorem TableLine.text_oneLine {line : TableLine} (hseparator : line.separator ≠ Byte.lineFeed)
    (hcells : forall cell, cell ∈ line.cells -> Byte.lineFeed ∉ cell) :
    Byte.lineFeed ∉ line.text := by
  rw [TableLine.text_eq]
  intro hmem
  rcases List.mem_cons.mp hmem with heq | hmem
  · exact hseparator heq.symm
  · rcases List.mem_flatMap.mp hmem with ⟨cell, hcell, hmem⟩
    rcases List.mem_append.mp hmem with hmem | heq
    · exact hcells cell hcell hmem
    · exact hseparator (List.mem_singleton.mp heq).symm

theorem borderLine_oneLine (columnWidths : List Nat) :
    Byte.lineFeed ∉ (borderLine columnWidths).text := by
  apply TableLine.text_oneLine (show (0x2B : Byte) ≠ Byte.lineFeed by decide)
  intro cell hcell hmem
  rcases List.mem_map.mp hcell with ⟨columnWidth, _, rfl⟩
  exact absurd (List.eq_of_mem_replicate hmem) (by decide)

theorem rowLine_oneLine {row : List Bytes} {columnWidths : List Nat}
    (hrow : forall cell, cell ∈ row -> Byte.lineFeed ∉ cell) :
    Byte.lineFeed ∉ (rowLine row columnWidths).text := by
  apply TableLine.text_oneLine (show (0x7C : Byte) ≠ Byte.lineFeed by decide)
  intro padded hpadded hmem
  rcases List.mem_iff_getElem.mp hpadded with ⟨index, hindex, rfl⟩
  have hcell : index < row.length := by
    have hlength : index < (List.zipWith paddedCell row columnWidths).length := hindex
    rw [List.length_zipWith] at hlength
    omega
  simp only [rowLine, List.getElem_zipWith, paddedCell, List.mem_append, List.mem_cons]
    at hmem
  rcases hmem with ((heq | hmem) | hmem) | heq | hmem
  · exact absurd heq (by decide)
  · exact hrow _ (List.getElem_mem hcell) hmem
  · exact absurd (List.eq_of_mem_replicate hmem) (by decide)
  · exact absurd heq (by decide)
  · exact absurd hmem List.not_mem_nil

theorem tableLines_oneLine {table : ResultTable}
    (htext : forall row, row = table.headers ∨ row ∈ table.rows ->
      forall cell, cell ∈ row -> Byte.lineFeed ∉ cell)
    {line : TableLine} (hline : line ∈ tableLines table) : Byte.lineFeed ∉ line.text := by
  have hborder := borderLine_oneLine (computeTableWidths table)
  unfold tableLines at hline
  simp only [List.mem_cons, List.mem_append, List.mem_map, List.not_mem_nil, or_false]
    at hline
  rcases hline with rfl | rfl | rfl | ⟨row, hrow, rfl⟩ | rfl
  · exact hborder
  · exact rowLine_oneLine (htext _ (Or.inl rfl))
  · exact hborder
  · exact rowLine_oneLine (htext row (Or.inr hrow))
  · exact hborder

/--
The printed table is lines of one display width, and in each of them a separator
stands at the display column where the borders have the plus sign with its number.
-/
theorem result_table_aligned {table : ResultTable}
    (hrows : forall row, row ∈ table.rows -> row.length = table.headers.length)
    (htext : forall row, row = table.headers ∨ row ∈ table.rows ->
      forall cell, cell ∈ row -> Byte.lineFeed ∉ cell) :
    printResultTable table =
        (tableLines table).flatMap (fun line => line.text ++ ascii "\n") ∧
      forall line, line ∈ tableLines table ->
        Byte.lineFeed ∉ line.text ∧
          line.cells.length = table.headers.length ∧
          utf8DisplayWidth line.text =
            utf8DisplayWidth (borderLine (computeTableWidths table)).text ∧
          forall index, index ≤ table.headers.length ->
            line.before index ++ [line.separator] <+: line.text ∧
              utf8DisplayWidth (line.before index) =
                utf8DisplayWidth
                  ((borderLine (computeTableWidths table)).before index) := by
  refine ⟨printResultTable_eq table, ?_⟩
  intro line hline
  have hborder := borderLine_fills (computeTableWidths table)
  have hfills := tableLines_fill hrows hline
  have hcolumns := computeTableWidths_length table
  have hcolumn : forall index, index ≤ (computeTableWidths table).length ->
      utf8DisplayWidth (line.before index) =
        utf8DisplayWidth ((borderLine (computeTableWidths table)).before index) :=
    fun index hindex => (hfills.column hindex).trans (hborder.column hindex).symm
  refine ⟨tableLines_oneLine htext hline, hfills.length.trans hcolumns, ?_, ?_⟩
  · rw [TableLine.text_width hfills.printable, TableLine.text_width hborder.printable,
      hfills.length, hborder.length, hcolumn _ (Nat.le_refl _)]
  · intro index hindex
    exact ⟨TableLine.before_prefix (by rw [hfills.length, hcolumns]; exact hindex),
      hcolumn index (hcolumns ▸ hindex)⟩

def unevenTable : ResultTable :=
  { headers := [ascii "name"], rows := [[[0xEA, 0xB0, 0x80]], [[0xE4]]] }

theorem result_table_aligned_uneven :
    utf8DisplayWidth (rowLine [[0xE4]] (computeTableWidths unevenTable)).text =
      utf8DisplayWidth (borderLine (computeTableWidths unevenTable)).text := by
  have hrows : forall row, row ∈ unevenTable.rows ->
      row.length = unevenTable.headers.length := by
    intro row hrow
    rcases List.mem_cons.mp hrow with rfl | hrow
    · rfl
    · rw [List.mem_singleton.mp hrow]
      rfl
  have htext : forall row, row = unevenTable.headers ∨ row ∈ unevenTable.rows ->
      forall cell, cell ∈ row -> Byte.lineFeed ∉ cell := by
    rintro row (rfl | hrow) cell hcell
    · rw [List.mem_singleton.mp hcell]
      decide
    · rcases List.mem_cons.mp hrow with rfl | hrow
      · rw [List.mem_singleton.mp hcell]
        decide
      · rw [List.mem_singleton.mp hrow] at hcell
        rw [List.mem_singleton.mp hcell]
        decide
  have hline : rowLine [[0xE4]] (computeTableWidths unevenTable) ∈
      tableLines unevenTable := by
    unfold tableLines
    simp only [List.mem_cons, List.mem_append, List.mem_map]
    exact Or.inr (Or.inr (Or.inr (Or.inl ⟨[[0xE4]], List.mem_cons_of_mem _ List.mem_cons_self,
      rfl⟩)))
  exact ((result_table_aligned hrows htext).2 _ hline).2.2.1

end Execution
end SqlCsvServer
