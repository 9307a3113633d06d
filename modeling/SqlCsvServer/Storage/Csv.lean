import SqlCsvServer.Common.Util

/-!
# The CSV line codec of `storage/storage.c`

`csvParseLine` reads one line into fields and `csvEscapeField` writes
one field.  The last part composes the two: what a row of values is read back
as, field by field.
-/

namespace SqlCsvServer
namespace Storage

open Foundation Common

/-!
## Reading a line
-/

def appendCharacter (buffer : Option Bytes) (b : Byte) : Option Bytes :=
  some (buffer.getD [] ++ [b])

def fieldText (justClosedQuote : Bool) (buffer : Option Bytes) : Bytes :=
  if justClosedQuote then buffer.getD [] else trimWhitespace (buffer.getD [])

/-- The loop of `csv_parse_line`; the list ends where the C string does. -/
def csvParseLoop (inQuotes justClosedQuote : Bool) (buffer : Option Bytes)
    (fields : List Bytes) : Bytes -> Except Bytes (List Bytes)
  | [] =>
      if inQuotes then .error (ascii "unterminated quoted CSV field")
      else .ok (fields ++ [fieldText justClosedQuote buffer])
  | current :: rest =>
      if inQuotes then
        if current = Byte.doubleQuote then
          match rest with
          | [] => csvParseLoop false true buffer fields []
          | next :: after =>
              if next = Byte.doubleQuote then
                csvParseLoop true justClosedQuote
                  (appendCharacter buffer Byte.doubleQuote) fields after
              else csvParseLoop false true buffer fields (next :: after)
        else
          csvParseLoop true justClosedQuote (appendCharacter buffer current)
            fields rest
      else if current = Byte.comma then
        csvParseLoop false false none
          (fields ++ [fieldText justClosedQuote buffer]) rest
      else if current = Byte.doubleQuote ∧ buffer = none then
        csvParseLoop true justClosedQuote buffer fields rest
      else if justClosedQuote ∧ current ≠ Byte.space ∧ current ≠ Byte.tab then
        .error (ascii "unexpected character after quoted CSV field")
      else if current ≠ Byte.carriageReturn ∧ current ≠ Byte.lineFeed then
        csvParseLoop false justClosedQuote (appendCharacter buffer current)
          fields rest
      else csvParseLoop false justClosedQuote buffer fields rest

def csvParseLine (line : Bytes) : Except Bytes (List Bytes) :=
  csvParseLoop false false none [] line

/-!
## Writing a field
-/

/-- A byte that makes `csv_escape_field` quote the value. -/
def forcesQuotes (b : Byte) : Bool :=
  b == Byte.doubleQuote || b == Byte.comma || b == Byte.lineFeed ||
    b == Byte.carriageReturn

/-- The value with every double quote doubled. -/
def doubleQuotes : Bytes -> Bytes
  | [] => []
  | b :: value =>
      if b = Byte.doubleQuote then b :: b :: doubleQuotes value
      else b :: doubleQuotes value

def csvEscapeField (value : Bytes) : Bytes :=
  if value = [] then [Byte.doubleQuote, Byte.doubleQuote]
  else if value.any forcesQuotes then
    Byte.doubleQuote :: (doubleQuotes value ++ [Byte.doubleQuote])
  else value

/-- The field loop of `append_row_csv`: escaped fields, joined by commas. -/
def csvRow : List Bytes -> Bytes
  | [] => []
  | [value] => csvEscapeField value
  | value :: rest => csvEscapeField value ++ Byte.comma :: csvRow rest

/-!
## Round trip
-/

def csvReadBack (value : Bytes) : Bytes :=
  if value = [] ∨ value.any forcesQuotes then value else trimWhitespace value

/-- The buffer after a run of `append_character` calls. -/
def appendCharacters (buffer : Option Bytes) : Bytes -> Option Bytes
  | [] => buffer
  | b :: value => appendCharacters (appendCharacter buffer b) value

theorem appendCharacters_some (text value : Bytes) :
    appendCharacters (some text) value = some (text ++ value) := by
  induction value generalizing text with
  | nil => simp [appendCharacters]
  | cons b value ih => simp [appendCharacters, appendCharacter, ih]

theorem appendCharacters_none_getD (value : Bytes) :
    (appendCharacters none value).getD [] = value := by
  cases value with
  | nil => rfl
  | cons b value => simp [appendCharacters, appendCharacter, appendCharacters_some]

theorem csvParseLoop_quoted (justClosedQuote : Bool) (fields : List Bytes)
    (value rest : Bytes) (hrest : rest.head? ≠ some Byte.doubleQuote) :
    forall buffer : Option Bytes,
      csvParseLoop true justClosedQuote buffer fields
          (doubleQuotes value ++ Byte.doubleQuote :: rest) =
        csvParseLoop false true (appendCharacters buffer value) fields rest := by
  induction value with
  | nil =>
      intro buffer
      cases rest with
      | nil => simp [doubleQuotes, csvParseLoop, appendCharacters]
      | cons next rest =>
          have hnext : next ≠ Byte.doubleQuote := by simpa using hrest
          simp only [doubleQuotes, List.nil_append, appendCharacters]
          rw [csvParseLoop.eq_def]
          simp [hnext]
  | cons b value ih =>
      intro buffer
      by_cases hb : b = Byte.doubleQuote
      · subst hb
        simp only [doubleQuotes, if_true, List.cons_append]
        rw [csvParseLoop.eq_def]
        simp [ih, appendCharacters]
      · simp only [doubleQuotes, hb, if_false, List.cons_append]
        rw [csvParseLoop.eq_def]
        simp [hb, ih, appendCharacters]

theorem csvParseLoop_plain (fields : List Bytes) (value rest : Bytes)
    (hplain : value.any forcesQuotes = false) :
    forall buffer : Option Bytes,
      csvParseLoop false false buffer fields (value ++ rest) =
        csvParseLoop false false (appendCharacters buffer value) fields rest := by
  induction value with
  | nil =>
      intro buffer
      rfl
  | cons b value ih =>
      intro buffer
      simp only [List.any_cons, Bool.or_eq_false_iff, forcesQuotes] at hplain
      rcases hplain with ⟨⟨⟨⟨hquote, hcomma⟩, hlf⟩, hcr⟩, hvalue⟩
      have hquote' : b ≠ Byte.doubleQuote := by simpa using hquote
      have hcomma' : b ≠ Byte.comma := by simpa using hcomma
      have hlf' : b ≠ Byte.lineFeed := by simpa using hlf
      have hcr' : b ≠ Byte.carriageReturn := by simpa using hcr
      rw [List.cons_append, csvParseLoop.eq_def]
      simp [hquote', hcomma', hlf', hcr', ih hvalue, appendCharacters]

theorem csvParseLoop_field (fields : List Bytes) (value rest : Bytes)
    (hrest : rest.head? ≠ some Byte.doubleQuote) :
    exists (justClosedQuote : Bool) (buffer : Option Bytes),
      fieldText justClosedQuote buffer = csvReadBack value ∧
        csvParseLoop false false none fields (csvEscapeField value ++ rest) =
          csvParseLoop false justClosedQuote buffer fields rest := by
  have hquoted :
      csvParseLoop false false none fields
          (Byte.doubleQuote :: (doubleQuotes value ++ [Byte.doubleQuote]) ++
            rest) =
        csvParseLoop false true (appendCharacters none value) fields rest := by
    have hcomma : Byte.doubleQuote ≠ Byte.comma := by decide
    rw [List.cons_append, csvParseLoop.eq_def]
    simpa [hcomma] using
      csvParseLoop_quoted false fields value rest hrest none
  by_cases hempty : value = []
  · refine ⟨true, none, ?_, ?_⟩
    · simp [fieldText, csvReadBack, hempty]
    · rw [hempty] at hquoted ⊢
      simpa [csvEscapeField, doubleQuotes, appendCharacters] using hquoted
  · by_cases hspecial : value.any forcesQuotes = true
    · refine ⟨true, appendCharacters none value, ?_, ?_⟩
      · simp only [fieldText, csvReadBack, hspecial, or_true, if_true]
        exact appendCharacters_none_getD value
      · rw [csvEscapeField, if_neg hempty, if_pos hspecial]
        exact hquoted
    · have hplain : value.any forcesQuotes = false := by
        simpa using hspecial
      refine ⟨false, appendCharacters none value, ?_, ?_⟩
      · simp [fieldText, csvReadBack, hempty, hplain,
          appendCharacters_none_getD]
      · rw [csvEscapeField, if_neg hempty, if_neg hspecial]
        exact csvParseLoop_plain fields value rest hplain none

theorem csvParseLoop_row (values : List Bytes) (hvalues : values ≠ []) :
    forall fields : List Bytes,
      csvParseLoop false false none fields (csvRow values) =
        .ok (fields ++ values.map csvReadBack) := by
  induction values with
  | nil => exact absurd rfl hvalues
  | cons value rest ih =>
      intro fields
      cases rest with
      | nil =>
          rcases csvParseLoop_field fields value [] (by simp) with
            ⟨justClosedQuote, buffer, htext, hparse⟩
          rw [List.append_nil] at hparse
          rw [csvRow, hparse, csvParseLoop.eq_def]
          simp [htext]
      | cons second rest =>
          rcases csvParseLoop_field fields value
              (Byte.comma :: csvRow (second :: rest)) (by simp; decide) with
            ⟨justClosedQuote, buffer, htext, hparse⟩
          rw [csvRow, hparse, csvParseLoop.eq_def]
          simp [htext, ih]
          simp

theorem csvParseLine_csvRow {values : List Bytes} (hvalues : values ≠ []) :
    csvParseLine (csvRow values) = .ok (values.map csvReadBack) := by
  have hparse := csvParseLoop_row values hvalues []
  rwa [List.nil_append] at hparse

theorem csvReadBack_eq_self_iff (value : Bytes) :
    csvReadBack value = value <->
      value.any forcesQuotes = true ∨ trimWhitespace value = value := by
  unfold csvReadBack
  by_cases hempty : value = []
  · subst hempty
    simp [trimWhitespace]
  · by_cases hspecial : value.any forcesQuotes = true
    · simp [hspecial]
    · simp [hempty, hspecial]

/-!
## The bytes of a row
-/

theorem csvEscapeField_ne_nil (value : Bytes) : csvEscapeField value ≠ [] := by
  unfold csvEscapeField
  split
  · simp
  · split
    · simp
    · assumption

theorem mem_doubleQuotes {b : Byte} {value : Bytes}
    (h : b ∈ doubleQuotes value) : b ∈ value := by
  induction value with
  | nil => exact h
  | cons head value ih =>
      unfold doubleQuotes at h
      split at h
      · rcases List.mem_cons.mp h with h | h
        · exact h ▸ List.mem_cons_self ..
        · rcases List.mem_cons.mp h with h | h
          · exact h ▸ List.mem_cons_self ..
          · exact List.mem_cons_of_mem _ (ih h)
      · rcases List.mem_cons.mp h with h | h
        · exact h ▸ List.mem_cons_self ..
        · exact List.mem_cons_of_mem _ (ih h)

theorem mem_csvEscapeField {b : Byte} {value : Bytes}
    (h : b ∈ csvEscapeField value) : b = Byte.doubleQuote ∨ b ∈ value := by
  unfold csvEscapeField at h
  split at h
  · exact Or.inl (by simpa using h)
  · split at h
    · rcases List.mem_cons.mp h with h | h
      · exact Or.inl h
      · rcases List.mem_append.mp h with h | h
        · exact Or.inr (mem_doubleQuotes h)
        · exact Or.inl (by simpa using h)
    · exact Or.inr h

theorem csvRow_ne_nil {values : List Bytes} (hvalues : values ≠ []) :
    csvRow values ≠ [] := by
  cases values with
  | nil => exact absurd rfl hvalues
  | cons value rest =>
      cases rest with
      | nil => exact csvEscapeField_ne_nil value
      | cons second rest => simp [csvRow]

theorem mem_csvRow {b : Byte} {values : List Bytes} (h : b ∈ csvRow values) :
    b = Byte.doubleQuote ∨ b = Byte.comma ∨
      exists value, value ∈ values ∧ b ∈ value := by
  induction values with
  | nil => simp [csvRow] at h
  | cons value rest ih =>
      have hfield : b ∈ csvEscapeField value ->
          b = Byte.doubleQuote ∨ b = Byte.comma ∨
            exists v, v ∈ value :: rest ∧ b ∈ v := by
        intro hb
        rcases mem_csvEscapeField hb with hb | hb
        · exact Or.inl hb
        · exact Or.inr (Or.inr ⟨value, List.mem_cons_self .., hb⟩)
      cases rest with
      | nil => exact hfield h
      | cons second rest =>
          rw [csvRow] at h
          rcases List.mem_append.mp h with h | h
          · exact hfield h
          · rcases List.mem_cons.mp h with h | h
            · exact Or.inr (Or.inl h)
            · rcases ih h with h | h | ⟨v, hv, hb⟩
              · exact Or.inl h
              · exact Or.inr (Or.inl h)
              · exact Or.inr (Or.inr ⟨v, List.mem_cons_of_mem _ hv, hb⟩)
          · simp

theorem csvRow_nulFree {values : List Bytes}
    (hnul : forall value, value ∈ values -> NulFree value) :
    NulFree (csvRow values) := by
  intro hmem
  rcases mem_csvRow hmem with h | h | ⟨value, hvalue, h⟩
  · exact absurd h (by decide)
  · exact absurd h (by decide)
  · exact hnul value hvalue h

/-!
## The codec on whole rows
-/

/-- A value that is read back unchanged. -/
def SurvivesCsv (value : Bytes) : Prop :=
  value = [] ∨
    (exists b, b ∈ value ∧
      (b = Byte.comma ∨ b = Byte.doubleQuote ∨ b = Byte.carriageReturn ∨
        b = Byte.lineFeed)) ∨
    NoOuterBlanks value

theorem any_forcesQuotes_iff (value : Bytes) :
    value.any forcesQuotes = true <->
      exists b, b ∈ value ∧
        (b = Byte.comma ∨ b = Byte.doubleQuote ∨ b = Byte.carriageReturn ∨
          b = Byte.lineFeed) := by
  simp only [List.any_eq_true, forcesQuotes, Bool.or_eq_true, beq_iff_eq]
  constructor
  · rintro ⟨b, hb, hkind⟩
    exists b
    tauto
  · rintro ⟨b, hb, hkind⟩
    exists b
    tauto

theorem csvReadBack_eq_self_iff_survives (value : Bytes) :
    csvReadBack value = value <-> SurvivesCsv value := by
  rw [csvReadBack_eq_self_iff, trimWhitespace_eq_self_iff,
    any_forcesQuotes_iff]
  unfold SurvivesCsv
  constructor
  · rintro (hspecial | hblank)
    · exact Or.inr (Or.inl hspecial)
    · exact Or.inr (Or.inr hblank)
  · rintro (hempty | hspecial | hblank)
    · apply Or.inr
      rw [hempty]
      constructor
      · intro b hb
        cases hb
      · intro b hb
        cases hb
    · exact Or.inl hspecial
    · exact Or.inr hblank

theorem csvReadBack_of_not_survives {value : Bytes}
    (h : ¬ SurvivesCsv value) : csvReadBack value = trimWhitespace value := by
  unfold csvReadBack
  rw [if_neg]
  rintro (hempty | hspecial)
  · exact h (Or.inl hempty)
  · exact h (Or.inr (Or.inl ((any_forcesQuotes_iff value).mp hspecial)))

/--
A written row is never the empty line, and it is read back field by field: the
values that survive as they are, the others without their outer blanks.
-/
theorem csv_row_read_back {values : List Bytes} (hvalues : values ≠ [])
    (hnul : forall value, value ∈ values -> NulFree value) :
    csvRow values ≠ [] ∧
      exists fields,
        csvParseLine (cString (csvRow values)) = .ok fields ∧
          fields.length = values.length ∧
          forall i (hi : i < values.length) (hi' : i < fields.length),
            (fields[i] = values[i] <-> SurvivesCsv values[i]) ∧
              (¬ SurvivesCsv values[i] ->
                fields[i] = trimWhitespace values[i]) := by
  constructor
  · exact csvRow_ne_nil hvalues
  · exists values.map csvReadBack
    rw [cString_eq_self (csvRow_nulFree hnul)]
    refine ⟨csvParseLine_csvRow hvalues, List.length_map .., ?_⟩
    intro i hi hi'
    rw [List.getElem_map]
    constructor
    · exact csvReadBack_eq_self_iff_survives values[i]
    · exact csvReadBack_of_not_survives

def sampleRow : List Bytes :=
  [ascii " a", ascii "x,\"y\""]

theorem csv_row_read_back_sample :
    csvRow sampleRow ≠ [] ∧
      exists fields,
        csvParseLine (cString (csvRow sampleRow)) = .ok fields ∧
          fields.length = sampleRow.length ∧
          forall i (hi : i < sampleRow.length) (hi' : i < fields.length),
            (fields[i] = sampleRow[i] <-> SurvivesCsv sampleRow[i]) ∧
              (¬ SurvivesCsv sampleRow[i] ->
                fields[i] = trimWhitespace sampleRow[i]) := by
  apply csv_row_read_back
  · decide
  · decide

example :
    csvParseLine (csvRow sampleRow) = .ok [ascii "a", ascii "x,\"y\""] := by
  decide

end Storage
end SqlCsvServer
