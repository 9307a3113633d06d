import SqlCsvServer.Storage.Schema

/-!
# What `append_row_csv` leaves in a file

An append that nothing disturbs adds the separator and the row.  A failing call
may cut this short; what is then left of the row is one more row for the readers, or
several, or none.
-/

namespace SqlCsvServer
namespace Storage

open Foundation Common

def RowFits (rowValues : List Bytes) : Prop :=
  (csvRow rowValues).length ≤ lineSize - 1

instance (rowValues : List Bytes) : Decidable (RowFits rowValues) :=
  inferInstanceAs (Decidable ((csvRow rowValues).length ≤ lineSize - 1))

structure OneRow (text : Bytes) (fields : List Bytes) : Prop where
  ne_nil : text ≠ []
  fits : text.length ≤ lineSize - 1
  parsed : csvParseLine text = .ok fields

theorem oneRow_csvRow {rowValues : List Bytes} (hne : rowValues ≠ [])
    (hfits : RowFits rowValues) :
    OneRow (csvRow rowValues) (rowValues.map csvReadBack) where
  ne_nil := csvRow_ne_nil hne
  fits := hfits
  parsed := csvParseLine_csvRow hne

/-!
## The bytes written
-/

theorem writeFields_complete {fault : Option AppendFault} :
    forall {rowValues : List Bytes} {index : Nat},
      (writeFields fault index rowValues).2 = none ->
        (writeFields fault index rowValues).1 =
          if 0 < index ∧ rowValues ≠ [] then Byte.comma :: csvRow rowValues
          else csvRow rowValues := by
  intro rowValues
  induction rowValues with
  | nil =>
      intro index _
      simp [writeFields, csvRow]
  | cons value rest ih =>
      intro index h
      unfold writeFields at h ⊢
      simp only at h ⊢
      split at h
      · simp at h
      · split at h
        · simp at h
        · split at h
          · simp at h
          · rename_i hescape hcomma hfield
            rw [if_neg hescape, if_neg hcomma, if_neg hfield]
            have hrest := ih h
            rw [hrest]
            by_cases hindex : 0 < index
            · cases rest with
              | nil => simp [hindex, csvRow]
              | cons second rest => simp [hindex, csvRow]
            · cases rest with
              | nil => simp [hindex, csvRow]
              | cons second rest => simp [hindex, csvRow]

theorem callFails_eq_true {fault : Option AppendFault} {call : AppendCall}
    (h : callFails fault call = true) :
    exists reached, fault = some { call := call, reached := reached } := by
  cases fault with
  | none => simp [callFails] at h
  | some fault =>
      cases fault with
      | mk failing reached =>
          simp only [callFails, Option.map_some, beq_iff_eq,
            Option.some.injEq] at h
          exact ⟨reached, by rw [h]⟩

theorem flushed_prefix (fault : Option AppendFault) (handed : Bytes) :
    flushed fault handed <+: handed := by
  unfold flushed
  split
  · exact List.prefix_rfl
  · exact List.take_prefix ..

theorem appendRow_ok {contents : Bytes} {rowValues : List Bytes}
    {fault : Option AppendFault}
    (hok : (appendRow contents rowValues fault).2.ok = true)
    (hclose : callFails fault .close = false) :
    (appendRow contents rowValues fault).2.rowOffset =
        (contents ++ lineSeparator contents).length ∧
      (appendRow contents rowValues fault).1 =
        contents ++ lineSeparator contents ++ csvRow rowValues := by
  unfold appendRow at hok ⊢
  simp only at hok ⊢
  split at hok
  · simp [storageFailure] at hok
  · split at hok
    · simp [storageFailure] at hok
    · split at hok
      · simp [storageFailure] at hok
      · split at hok
        · simp [storageFailure] at hok
        · split at hok
          · simp [storageFailure] at hok
          · split at hok
            · simp [storageFailure] at hok
            · rename_i hseek hmeasure hinspect hrewind hseparator hoffset
              rw [if_neg hseek, if_neg hmeasure, if_neg hinspect,
                if_neg hrewind, if_neg hseparator, if_neg hoffset]
              rcases hwrite : writeFields fault 0 rowValues with
                ⟨written, _ | text⟩
              · have hcomplete :=
                  @writeFields_complete fault rowValues 0 (by rw [hwrite])
                have hwritten : written = csvRow rowValues := by
                  simpa [hwrite] using hcomplete
                simp [hwritten, hclose]
              · rw [hwrite] at hok
                simp [storageFailure] at hok

theorem appendRow_noFault (contents : Bytes) (rowValues : List Bytes) :
    (appendRow contents rowValues none).2.ok = true := by
  have hwrite : forall (values : List Bytes) (index : Nat),
      (writeFields none index values).2 = none := by
    intro values
    induction values with
    | nil => exact fun _ => rfl
    | cons value rest ih =>
        intro index
        simpa [writeFields, callFails] using ih (index + 1)
  have hzero := hwrite rowValues 0
  rcases hresult : writeFields none 0 rowValues with ⟨written, error⟩
  rw [hresult] at hzero
  simp only at hzero
  subst hzero
  simp [appendRow, callFails, hresult]

/-!
## Growing files
-/

structure Grows (old new : Bytes) : Prop where
  ne_nil : old ≠ [] -> new ≠ []
  header : old ≠ [] -> headerText new = headerText old
  rows : old ≠ [] ->
    exists (more : List (Nat × Bytes)) (fields : List (Nat × List Bytes)),
      dataLines new = dataLines old ++ more ∧ parseLines more = .ok fields

theorem grows_refl (contents : Bytes) : Grows contents contents where
  ne_nil := id
  header := fun _ => rfl
  rows := fun _ => ⟨[], [], by simp, rfl⟩

theorem grows_trans {a b c : Bytes} (hab : Grows a b) (hbc : Grows b c) :
    Grows a c where
  ne_nil := fun h => hbc.ne_nil (hab.ne_nil h)
  header := fun h => (hbc.header (hab.ne_nil h)).trans (hab.header h)
  rows := fun h => by
    rcases hab.rows h with ⟨more, fields, hlines, hfields⟩
    rcases hbc.rows (hab.ne_nil h) with ⟨more', fields', hlines', hfields'⟩
    refine ⟨more ++ more', fields ++ fields', ?_, ?_⟩
    · rw [hlines', hlines, List.append_assoc]
    · rw [parseLines_append hfields, hfields']

theorem prefix_lineSeparator {contents gained : Bytes}
    (h : gained <+: lineSeparator contents) :
    gained = [] ∨ gained = lineSeparator contents := by
  rcases lineSeparator_cases contents with hsep | hsep
  · rw [hsep] at h ⊢
    exact Or.inl (List.prefix_nil.mp h)
  · rw [hsep] at h ⊢
    rcases List.prefix_cons_iff.mp h with h | ⟨rest, hrest, hnil⟩
    · exact Or.inl h
    · rw [hrest, List.prefix_nil.mp hnil]
      exact Or.inr rfl

theorem dataLines_append_separator {contents gained : Bytes}
    (hne : contents ≠ []) (h : gained <+: lineSeparator contents) :
    headerText (contents ++ gained) = headerText contents ∧
      dataLines (contents ++ gained) = dataLines contents := by
  rcases prefix_lineSeparator h with rfl | rfl
  · rw [List.append_nil]
    exact ⟨rfl, rfl⟩
  · have hempty := dataLines_append hne []
    rw [List.append_nil] at hempty
    refine ⟨hempty.1, ?_⟩
    rw [hempty.2]
    simp [linesWritten, withOffsets, textLines]

theorem grows_separator {contents gained : Bytes}
    (h : gained <+: lineSeparator contents) :
    Grows contents (contents ++ gained) where
  ne_nil := fun hne => by simp [hne]
  header := fun hne => (dataLines_append_separator hne h).1
  rows := fun hne =>
    ⟨[], [], by rw [(dataLines_append_separator hne h).2, List.append_nil], rfl⟩

section Row

variable {rowValues : List Bytes}

theorem csvRow_bytes
    (hvalues : forall value, value ∈ rowValues ->
      NulFree value ∧ value.any isLineEnding = false) :
    forall b, b ∈ csvRow rowValues -> b ≠ Byte.nul ∧ isLineEnding b = false := by
  intro b hb
  rcases mem_csvRow hb with rfl | rfl | ⟨value, hvalue, hmem⟩
  · exact ⟨by decide, by decide⟩
  · exact ⟨by decide, by decide⟩
  · rcases hvalues value hvalue with ⟨hnul, hline⟩
    refine ⟨fun heq => hnul (heq ▸ hmem), ?_⟩
    rw [List.any_eq_false] at hline
    simpa using hline b hmem

variable {text : Bytes} {fields : List Bytes}

theorem dataLines_append_row {contents : Bytes} (hne : contents ≠ [])
    (htext : forall b, b ∈ text -> b ≠ Byte.nul ∧ isLineEnding b = false)
    (hrow : OneRow text fields) :
    dataLines (contents ++ lineSeparator contents ++ text) =
      dataLines contents ++ [((contents ++ lineSeparator contents).length, text)] := by
  rw [(dataLines_append hne _).2, linesWritten_of_fits hrow.ne_nil htext hrow.fits]

theorem parseLines_append_row {contents : Bytes} (hne : contents ≠ [])
    (htext : forall b, b ∈ text -> b ≠ Byte.nul ∧ isLineEnding b = false)
    (hrow : OneRow text fields) {rows : List (Nat × List Bytes)}
    (hrows : parseLines (dataLines contents) = .ok rows) :
    parseLines (dataLines (contents ++ lineSeparator contents ++ text)) =
      .ok (rows ++ [((contents ++ lineSeparator contents).length, fields)]) := by
  rw [dataLines_append_row hne htext hrow, parseLines_append hrows]
  simp [parseLines, hrow.parsed]

theorem grows_row {contents : Bytes}
    (htext : forall b, b ∈ text -> b ≠ Byte.nul ∧ isLineEnding b = false)
    (hrow : OneRow text fields) :
    Grows contents (contents ++ lineSeparator contents ++ text) where
  ne_nil := fun hne => by simp [hne]
  header := fun hne => (dataLines_append hne _).1
  rows := fun hne => by
    refine ⟨_, [((contents ++ lineSeparator contents).length, fields)],
      dataLines_append_row hne htext hrow, ?_⟩
    simp [parseLines, hrow.parsed]

end Row

end Storage
end SqlCsvServer
