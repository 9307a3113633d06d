import Mathlib.Data.List.Forall2
import SqlCsvServer.Storage.Rows

/-!
# The data lines of a table file

Every loop over a table file cuts it into the same lines and skips the same
blank ones.  `dataLines` is that list, with the offset of each line, and
the loops and the read at an offset are described by it.  The second half shows
what `append_row_csv` does to the list.
-/

namespace SqlCsvServer
namespace Storage

open Foundation Common

theorem two_le_lineSize : 2 ≤ lineSize := by decide

/-!
## Lines and rows
-/

def textLines : List (Nat × Bytes) -> List (Nat × Bytes)
  | [] => []
  | (offset, line) :: lines =>
      if lineText line = [] then textLines lines
      else (offset, lineText line) :: textLines lines

def headerText (contents : Bytes) : Option Bytes :=
  (fgets lineSize contents).map fun read => lineText read.1

def dataLines (contents : Bytes) : List (Nat × Bytes) :=
  match fgets lineSize contents with
  | none => []
  | some (header, rest) =>
      textLines (withOffsets header.length (readLines lineSize rest))

def parseLines :
    List (Nat × Bytes) -> Except Bytes (List (Nat × List Bytes))
  | [] => .ok []
  | (offset, text) :: lines =>
      match csvParseLine text with
      | .error error => .error error
      | .ok fields =>
          match parseLines lines with
          | .error error => .error error
          | .ok rows => .ok ((offset, fields) :: rows)

theorem textLines_append (a b : List (Nat × Bytes)) :
    textLines (a ++ b) = textLines a ++ textLines b := by
  induction a with
  | nil => rfl
  | cons line a ih =>
      rcases line with ⟨offset, line⟩
      by_cases hblank : lineText line = []
      · simp [textLines, hblank, ih]
      · simp [textLines, hblank, ih]

theorem mem_textLines {offset : Nat} {text : Bytes}
    {lines : List (Nat × Bytes)} (h : (offset, text) ∈ textLines lines) :
    exists line,
      (offset, line) ∈ lines ∧ lineText line = text ∧ text ≠ [] := by
  induction lines with
  | nil => simp [textLines] at h
  | cons head lines ih =>
      rcases head with ⟨start, line⟩
      by_cases hblank : lineText line = []
      · simp only [textLines, hblank, if_true] at h
        rcases ih h with ⟨found, hmem, htext⟩
        exact ⟨found, List.mem_cons_of_mem _ hmem, htext⟩
      · simp only [textLines, hblank, if_false] at h
        rcases List.mem_cons.mp h with h | h
        · rcases Prod.mk.inj h with ⟨rfl, rfl⟩
          exact ⟨line, List.mem_cons_self .., rfl, hblank⟩
        · rcases ih h with ⟨found, hmem, htext⟩
          exact ⟨found, List.mem_cons_of_mem _ hmem, htext⟩

theorem parseLines_append {a b : List (Nat × Bytes)}
    {rows : List (Nat × List Bytes)} (ha : parseLines a = .ok rows) :
    parseLines (a ++ b) =
      match parseLines b with
      | .error error => .error error
      | .ok more => .ok (rows ++ more) := by
  induction a generalizing rows with
  | nil =>
      simp only [parseLines, Except.ok.injEq] at ha
      subst ha
      simp only [List.nil_append]
      cases parseLines b <;> rfl
  | cons line a ih =>
      rcases line with ⟨offset, text⟩
      simp only [List.cons_append, parseLines] at ha ⊢
      cases hfields : csvParseLine text with
      | error error => simp [hfields] at ha
      | ok fields =>
          cases hrest : parseLines a with
          | error error => simp [hfields, hrest] at ha
          | ok rest =>
              simp only [hfields, hrest, Except.ok.injEq] at ha
              subst ha
              simp only [ih hrest]
              cases parseLines b <;> rfl

theorem parseLines_forall {lines : List (Nat × Bytes)}
    {rows : List (Nat × List Bytes)} (h : parseLines lines = .ok rows) :
    List.Forall₂
      (fun line row => line.1 = row.1 ∧ csvParseLine line.2 = .ok row.2)
      lines rows := by
  induction lines generalizing rows with
  | nil =>
      simp only [parseLines, Except.ok.injEq] at h
      subst h
      exact List.Forall₂.nil
  | cons line lines ih =>
      rcases line with ⟨offset, text⟩
      simp only [parseLines] at h
      cases hfields : csvParseLine text with
      | error error => simp [hfields] at h
      | ok fields =>
          cases hrest : parseLines lines with
          | error error => simp [hfields, hrest] at h
          | ok rest =>
              simp only [hfields, hrest, Except.ok.injEq] at h
              subst h
              exact List.Forall₂.cons ⟨rfl, hfields⟩ (ih hrest)

theorem parseLines_length {lines : List (Nat × Bytes)}
    {rows : List (Nat × List Bytes)} (h : parseLines lines = .ok rows) :
    rows.length = lines.length :=
  (List.Forall₂.length_eq (parseLines_forall h)).symm

/-!
## The scan visits the data lines
-/

section Scan

variable {σ : Type} (visitor : List Bytes -> Int -> σ -> σ × Option Bytes)

def visitRows : List (Nat × List Bytes) -> σ -> σ × Option Bytes
  | [], context => (context, none)
  | (offset, fields) :: rows, context =>
      match visitor fields offset context with
      | (context, some error) => (context, some error)
      | (context, none) => visitRows rows context

theorem scanLoop_of_parseLines {lines : List (Nat × Bytes)}
    {rows : List (Nat × List Bytes)}
    (h : parseLines (textLines lines) = .ok rows) (context : σ) :
    scanLoop visitor lines context = visitRows visitor rows context := by
  induction lines generalizing rows context with
  | nil =>
      simp only [textLines, parseLines, Except.ok.injEq] at h
      subst h
      rfl
  | cons line lines ih =>
      rcases line with ⟨offset, line⟩
      by_cases hblank : lineText line = []
      · simp only [textLines, hblank, if_true] at h
        simp [scanLoop, hblank, ih h]
      · simp only [textLines, hblank, if_false, parseLines] at h
        cases hfields : csvParseLine (lineText line) with
        | error error => simp [hfields] at h
        | ok fields =>
            cases hrest : parseLines (textLines lines) with
            | error error => simp [hfields, hrest] at h
            | ok rest =>
                simp only [hfields, hrest, Except.ok.injEq] at h
                subst h
                simp only [scanLoop, hblank, if_false, hfields, visitRows]
                rcases visitor fields offset context with ⟨context, _ | error⟩
                · exact ih hrest context
                · rfl

theorem parseLines_of_scanLoop {lines : List (Nat × Bytes)} {context : σ}
    (h : (scanLoop visitor lines context).2 = none) :
    exists rows, parseLines (textLines lines) = .ok rows := by
  induction lines generalizing context with
  | nil => exact ⟨[], rfl⟩
  | cons line lines ih =>
      rcases line with ⟨offset, line⟩
      by_cases hblank : lineText line = []
      · simp only [scanLoop, hblank, if_true] at h
        rcases ih h with ⟨rows, hrows⟩
        exact ⟨rows, by simp [textLines, hblank, hrows]⟩
      · simp only [scanLoop, hblank, if_false] at h
        cases hfields : csvParseLine (lineText line) with
        | error error => simp [hfields] at h
        | ok fields =>
            simp only [hfields] at h
            split at h
            · simp at h
            · rcases ih h with ⟨rows, hrows⟩
              exact ⟨(offset, fields) :: rows,
                by simp [textLines, hblank, parseLines, hfields, hrows]⟩

theorem scanRows_of_parseLines {contents : Bytes} (hne : contents ≠ [])
    {rows : List (Nat × List Bytes)}
    (h : parseLines (dataLines contents) = .ok rows) (context : σ) :
    scanRows contents visitor context = visitRows visitor rows context := by
  unfold dataLines at h
  unfold scanRows
  rw [fgets_eq_takeLine _ hne] at h ⊢
  exact scanLoop_of_parseLines visitor h context

theorem parseLines_of_scanRows {contents : Bytes} {context : σ}
    (h : (scanRows contents visitor context).2 = none) :
    contents ≠ [] ∧ exists rows, parseLines (dataLines contents) = .ok rows := by
  unfold scanRows at h
  unfold dataLines
  cases hread : fgets lineSize contents with
  | none => simp [hread] at h
  | some read =>
      simp only [hread] at h
      refine ⟨?_, parseLines_of_scanLoop visitor h⟩
      intro hempty
      simp [hempty, fgets] at hread

end Scan

/-!
## The read at an offset
-/

theorem mem_dataLines {contents : Bytes} {offset : Nat} {text : Bytes}
    (h : (offset, text) ∈ dataLines contents) :
    exists line rest,
      fgets lineSize (contents.drop offset) = some (line, rest) ∧
        lineText line = text ∧ text ≠ [] := by
  unfold dataLines at h
  cases hread : fgets lineSize contents with
  | none => simp [hread] at h
  | some read =>
      rcases read with ⟨header, rest⟩
      simp only [hread] at h
      rcases mem_textLines h with ⟨line, hmem, htext, hne⟩
      rcases fgets_drop_of_mem_withOffsets two_le_lineSize rest header.length
          offset line hmem with ⟨hstart, after, hafter⟩
      refine ⟨line, after, ?_, htext, hne⟩
      have hdrop :
          contents.drop offset = rest.drop (offset - header.length) := by
        conv_lhs => rw [← fgets_join hread]
        have hsplit : offset = header.length + (offset - header.length) := by
          omega
        rw [hsplit, List.drop_append]
        simp
      rw [hdrop]
      exact hafter

theorem readRowAtOffset_of_mem {contents : Bytes} {offset : Nat} {text : Bytes}
    (h : (offset, text) ∈ dataLines contents) :
    readRowAtOffset contents offset = csvParseLine text := by
  rcases mem_dataLines h with ⟨line, rest, hread, htext, hne⟩
  have hoffset : ¬ (offset : Int) < 0 := by omega
  unfold readRowAtOffset
  rw [if_neg hoffset, Int.toNat_natCast, hread]
  simp [htext, hne]

/-!
## The data lines after an append
-/

theorem lineSeparator_eq_nil {contents : Bytes}
    (h : lineSeparator contents = []) (hne : contents ≠ []) :
    contents.getLast hne = Byte.lineFeed := by
  unfold lineSeparator at h
  rw [List.getLast?_eq_some_getLast hne] at h
  by_contra hlast
  simp [hlast] at h

theorem lineSeparator_cases (contents : Bytes) :
    lineSeparator contents = [] ∨ lineSeparator contents = [Byte.lineFeed] := by
  unfold lineSeparator
  split
  · exact Or.inl rfl
  · split
    · exact Or.inr rfl
    · exact Or.inl rfl

theorem dataLines_append_of_lineFeed {contents : Bytes} (hne : contents ≠ [])
    (hlast : contents.getLast hne = Byte.lineFeed) (text : Bytes) :
    headerText (contents ++ text) = headerText contents ∧
      dataLines (contents ++ text) =
        dataLines contents ++
          textLines (withOffsets contents.length (readLines lineSize text)) := by
  have hread := fgets_eq_takeLine lineSize hne
  have hcomplete :
      Complete (lineSize - 1) (takeLine (lineSize - 1) contents).1 := by
    by_contra hshort
    have hall := takeLine_of_not_complete hshort
    apply hshort
    refine Or.inr ?_
    rw [hall]
    exact hlast ▸ List.getLast_mem hne
  have happend :
      fgets lineSize (contents ++ text) =
        some ((takeLine (lineSize - 1) contents).1,
          (takeLine (lineSize - 1) contents).2 ++ text) := by
    rw [fgets_eq_takeLine _ (by simp [hne]),
      takeLine_append_of_complete text hcomplete]
  generalize takeLine (lineSize - 1) contents = read at hread happend
  rcases read with ⟨header, rest⟩
  have hjoin := fgets_join hread
  have hrest : forall h : rest ≠ [], rest.getLast h = Byte.lineFeed := by
    intro h
    simp only [← hjoin] at hlast
    rwa [List.getLast_append_of_ne_nil _ h] at hlast
  refine ⟨by simp [headerText, hread, happend], ?_⟩
  unfold dataLines
  rw [hread, happend]
  simp only
  rw [readLines_append_of_lineFeed two_le_lineSize text rest hrest,
    withOffsets_append, textLines_append, readLines_flatten two_le_lineSize]
  have hlength : header.length + rest.length = contents.length := by
    rw [← hjoin, List.length_append]
  rw [hlength]

theorem dataLines_append_lineFeed {contents : Bytes} (hne : contents ≠ []) :
    headerText (contents ++ [Byte.lineFeed]) = headerText contents ∧
      dataLines (contents ++ [Byte.lineFeed]) = dataLines contents := by
  have hread := fgets_eq_takeLine lineSize hne
  by_cases hcomplete :
      Complete (lineSize - 1) (takeLine (lineSize - 1) contents).1
  · have happend :
        fgets lineSize (contents ++ [Byte.lineFeed]) =
          some ((takeLine (lineSize - 1) contents).1,
            (takeLine (lineSize - 1) contents).2 ++ [Byte.lineFeed]) := by
      rw [fgets_eq_takeLine _ (by simp),
        takeLine_append_of_complete _ hcomplete]
    generalize takeLine (lineSize - 1) contents = read at hread happend
    rcases read with ⟨header, rest⟩
    refine ⟨by simp [headerText, hread, happend], ?_⟩
    unfold dataLines
    rw [hread, happend]
    simp only
    have hblank : lineText [Byte.lineFeed] = [] := by decide
    rcases readLines_append_lineFeed two_le_lineSize rest with
      hlines | ⟨front, last, hlines, hafter⟩
    · rw [hlines, withOffsets_append, textLines_append]
      simp [withOffsets, textLines, hblank]
    · rw [hlines, hafter, withOffsets_append, withOffsets_append,
        textLines_append, textLines_append]
      have htext : lineText (last ++ [Byte.lineFeed]) = lineText last :=
        lineText_append_lineFeed last
      simp [withOffsets, textLines, htext]
  · have hall := takeLine_of_not_complete hcomplete
    have hfree : Byte.lineFeed ∉ contents := by
      intro hmem
      exact hcomplete (Or.inr (by rw [hall]; exact hmem))
    have hroom : contents.length < lineSize - 1 := by
      have hle := takeLine_length_le (lineSize - 1) contents
      rw [hall] at hle
      refine Nat.lt_of_le_of_ne hle ?_
      intro heq
      exact hcomplete (Or.inl (by rw [hall]; exact heq))
    have happend :
        fgets lineSize (contents ++ [Byte.lineFeed]) =
          some (contents ++ [Byte.lineFeed], []) := by
      rw [fgets_eq_takeLine _ (by simp), takeLine_append_lineFeed hfree hroom]
    rw [hall] at hread
    refine ⟨?_, by simp [dataLines, hread, happend, withOffsets, textLines]⟩
    have htext : lineText (contents ++ [Byte.lineFeed]) = lineText contents :=
      lineText_append_lineFeed contents
    simp [headerText, hread, happend, htext]

def linesWritten (offset : Nat) (text : Bytes) : List (Nat × Bytes) :=
  textLines (withOffsets offset (readLines lineSize text))

theorem dataLines_append {contents : Bytes} (hne : contents ≠ [])
    (text : Bytes) :
    headerText (contents ++ lineSeparator contents ++ text) =
        headerText contents ∧
      dataLines (contents ++ lineSeparator contents ++ text) =
        dataLines contents ++
          linesWritten (contents ++ lineSeparator contents).length text := by
  rcases lineSeparator_cases contents with hsep | hsep
  · have hlast := lineSeparator_eq_nil hsep hne
    rw [hsep, List.append_nil]
    exact dataLines_append_of_lineFeed hne hlast text
  · have hne' : contents ++ [Byte.lineFeed] ≠ [] := by simp
    have hlast : (contents ++ [Byte.lineFeed]).getLast hne' = Byte.lineFeed := by
      simp
    have hfeed := dataLines_append_lineFeed hne
    have htext := dataLines_append_of_lineFeed hne' hlast text
    rw [hsep]
    exact ⟨htext.1.trans hfeed.1, by rw [htext.2, hfeed.2]; rfl⟩

/-!
## The lines of one row
-/

section Row

variable {row : Bytes}

theorem lineText_eq_self
    (hrow : forall b, b ∈ row -> b ≠ Byte.nul ∧ isLineEnding b = false) :
    lineText row = row := by
  have hnul : NulFree row := fun hmem => (hrow _ hmem).1 rfl
  unfold lineText
  rw [cString_eq_self hnul]
  exact stripLineEndings_eq_self fun b hb => (hrow b hb).2

theorem lineFeed_not_mem
    (hrow : forall b, b ∈ row -> b ≠ Byte.nul ∧ isLineEnding b = false) :
    Byte.lineFeed ∉ row := by
  intro hmem
  exact absurd (hrow _ hmem).2 (by decide)

theorem linesWritten_of_fits (hne : row ≠ [])
    (hrow : forall b, b ∈ row -> b ≠ Byte.nul ∧ isLineEnding b = false)
    (hfits : row.length ≤ lineSize - 1) (offset : Nat) :
    linesWritten offset row = [(offset, row)] := by
  unfold linesWritten
  rw [readLines_of_fits two_le_lineSize hne (lineFeed_not_mem hrow) hfits]
  simp [withOffsets, textLines, lineText_eq_self hrow, hne]

theorem linesWritten_of_long
    (hrow : forall b, b ∈ row -> b ≠ Byte.nul ∧ isLineEnding b = false)
    (hlong : lineSize - 1 < row.length) (offset : Nat) :
    linesWritten offset row =
      (offset, row.take (lineSize - 1)) ::
        linesWritten (offset + (lineSize - 1)) (row.drop (lineSize - 1)) := by
  have htake : row.take (lineSize - 1) ≠ [] := by
    intro hnil
    have hlength := congrArg List.length hnil
    rw [List.length_take, List.length_nil] at hlength
    have hsize := two_le_lineSize
    omega
  have hpart :
      forall b, b ∈ row.take (lineSize - 1) ->
        b ≠ Byte.nul ∧ isLineEnding b = false :=
    fun b hb => hrow b (List.mem_of_mem_take hb)
  unfold linesWritten
  rw [readLines_of_long two_le_lineSize (lineFeed_not_mem hrow) hlong]
  have hlength : (row.take (lineSize - 1)).length = lineSize - 1 := by
    rw [List.length_take]
    omega
  simp only [withOffsets, textLines, lineText_eq_self hpart, htake, if_false,
    hlength]

theorem linesWritten_ne_nil (hne : row ≠ [])
    (hrow : forall b, b ∈ row -> b ≠ Byte.nul ∧ isLineEnding b = false)
    (offset : Nat) : linesWritten offset row ≠ [] := by
  rcases Nat.lt_or_ge (lineSize - 1) row.length with hlong | hfits
  · rw [linesWritten_of_long hrow hlong]
    simp
  · rw [linesWritten_of_fits hne hrow hfits]
    simp

theorem linesWritten_length_eq_one_iff (hne : row ≠ [])
    (hrow : forall b, b ∈ row -> b ≠ Byte.nul ∧ isLineEnding b = false)
    (offset : Nat) :
    (linesWritten offset row).length = 1 <-> row.length ≤ lineSize - 1 := by
  rcases Nat.lt_or_ge (lineSize - 1) row.length with hlong | hfits
  · have hrest : row.drop (lineSize - 1) ≠ [] := by
      intro hnil
      have hlength := congrArg List.length hnil
      rw [List.length_drop, List.length_nil] at hlength
      omega
    have hpart :
        forall b, b ∈ row.drop (lineSize - 1) ->
          b ≠ Byte.nul ∧ isLineEnding b = false :=
      fun b hb => hrow b (List.mem_of_mem_drop hb)
    have hmore :=
      linesWritten_ne_nil hrest hpart (offset + (lineSize - 1))
    have hpos := List.length_pos_of_ne_nil hmore
    rw [linesWritten_of_long hrow hlong, List.length_cons]
    omega
  · rw [linesWritten_of_fits hne hrow hfits]
    simpa using hfits

end Row

end Storage
end SqlCsvServer
