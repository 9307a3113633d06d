import SqlCsvServer.Storage.Append

/-!
# What appends leave of a header

However an append ends, the bytes it adds stand behind the first line of the
file.  `load_schema` reads nothing else of the data directory, so it
returns the same before and after.
-/

namespace SqlCsvServer
namespace Storage

open Foundation Common

theorem appendRow_prefix (contents : Bytes) (rowValues : List Bytes)
    (fault : Option AppendFault) :
    exists written gained,
      gained <+: lineSeparator contents ++ written ∧
        (appendRow contents rowValues fault).1 = contents ++ gained := by
  have hnothing : exists written gained,
      gained <+: lineSeparator contents ++ written ∧
        contents = contents ++ gained :=
    ⟨[], [], List.nil_prefix, (List.append_nil _).symm⟩
  have hseparator : exists written gained,
      gained <+: lineSeparator contents ++ written ∧
        contents ++ flushed fault (lineSeparator contents) =
          contents ++ gained :=
    ⟨[], _, by simpa using flushed_prefix fault _, rfl⟩
  unfold appendRow
  simp only
  split
  · exact hnothing
  · split
    · exact hnothing
    · split
      · exact hnothing
      · split
        · exact hnothing
        · split
          · exact hseparator
          · split
            · exact hseparator
            · rcases writeFields fault 0 rowValues with ⟨written, _ | text⟩
              · by_cases hclose : callFails fault .close = true
                · simp only [hclose, if_true]
                  exact ⟨written, _, flushed_prefix _ _, rfl⟩
                · simp only [hclose]
                  exact ⟨written, _, List.prefix_rfl, rfl⟩
              · exact ⟨written, _, flushed_prefix _ _, rfl⟩

theorem headerText_appended {contents gained written : Bytes}
    (hne : contents ≠ []) (h : gained <+: lineSeparator contents ++ written) :
    headerText (contents ++ gained) = headerText contents := by
  rcases List.prefix_or_prefix_of_prefix h (List.prefix_append _ _) with
    hpart | ⟨rest, hwhole⟩
  · exact (dataLines_append_separator hne hpart).1
  · rw [← hwhole, ← List.append_assoc]
    exact (dataLines_append hne rest).1

/-!
## Directories with the same headers
-/

def SameHeader (old new : Except Errno CsvFile) : Prop :=
  match old with
  | .error errno => new = .error errno
  | .ok file =>
      exists contents,
        new = .ok { file with contents := contents } ∧
          headerText contents = headerText file.contents

structure SameHeaders (old new : DataDir) : Prop where
  path : new.path = old.path
  files : forall name, SameHeader (old.files name) (new.files name)

theorem sameHeaders_refl (dataDir : DataDir) : SameHeaders dataDir dataDir where
  path := rfl
  files := fun name => by
    unfold SameHeader
    split
    · assumption
    · rename_i file hfile
      exact ⟨file.contents, hfile, rfl⟩

theorem validateCsvHeader_of_sameHeaders {old new : DataDir}
    (h : SameHeaders old new) (schema : Schema) :
    validateCsvHeader new schema = validateCsvHeader old schema := by
  have hfile := h.files schema.storageName
  unfold SameHeader at hfile
  unfold validateCsvHeader
  cases hold : old.files schema.storageName with
  | error errno =>
      simp only [hold] at hfile
      rw [hfile, h.path]
  | ok file =>
      simp only [hold] at hfile
      rcases hfile with ⟨contents, hnew, hheader⟩
      rw [hnew]
      simp only [hheader]

theorem loadSchema_of_sameHeaders {old new : DataDir} (h : SameHeaders old new)
    (schemaDir : SchemaDir) (tableName : Bytes) :
    loadSchema schemaDir new tableName = loadSchema schemaDir old tableName := by
  unfold loadSchema
  cases readSchema schemaDir tableName with
  | error text => rfl
  | ok schema => simp only [validateCsvHeader_of_sameHeaders h]

theorem appendRowCsv_sameHeaders {old new : DataDir} (h : SameHeaders old new)
    {schema : Schema} (hheader : validateCsvHeader old schema = .ok ())
    (rowValues : List Bytes) (fault : Option AppendFault) :
    SameHeaders old
      (appendRowCsv new schema.storageName rowValues fault).1 := by
  rw [← validateCsvHeader_of_sameHeaders h] at hheader
  rcases contents_of_validateCsvHeader hheader with ⟨file, hfile, hne, _⟩
  unfold appendRowCsv openTableFileForUpdate
  simp only [hfile]
  cases file.updateError with
  | some errno => exact h
  | none =>
      constructor
      · exact h.path
      · intro name
        have hname := h.files name
        by_cases htable : name = schema.storageName
        · subst htable
          rcases appendRow_prefix file.contents rowValues fault with
            ⟨written, gained, hprefix, hcontents⟩
          simp only [DataDir.write, if_true, hfile, hcontents]
          unfold SameHeader at hname ⊢
          split at hname
          · rw [hfile] at hname
            cases hname
          · rcases hname with ⟨contents, hnew, hsame⟩
            rw [hfile, Except.ok.injEq] at hnew
            subst hnew
            exact ⟨_, rfl, (headerText_appended hne hprefix).trans hsame⟩
        · simpa [DataDir.write, htable] using hname

end Storage
end SqlCsvServer
