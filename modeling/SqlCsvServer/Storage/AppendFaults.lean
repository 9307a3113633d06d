import Mathlib.Data.List.TakeDrop
import SqlCsvServer.Storage.Append

/-!
# Failing calls inside `append_row_csv`

Which bytes a failing call leaves in the file depends on what was handed to the
stream by then.  An append tells the truth about the file exactly when a failure
that it reports lets nothing through, and one that it does not notice, the final
flush, lets everything through.
-/

namespace SqlCsvServer
namespace Storage

open Foundation Common

def BytesHanded (contents : Bytes) (rowValues : List Bytes) : AppendCall -> Prop
  | .seekEnd => False
  | .measure => False
  | .inspect => False
  | .rewind => False
  | .separator => lineSeparator contents ≠ []
  | .offset => lineSeparator contents ≠ []
  | .escape index =>
      index < rowValues.length ∧ (0 < index ∨ lineSeparator contents ≠ [])
  | .comma index => 0 < index ∧ index < rowValues.length
  | .field index => index < rowValues.length
  | .close => True

/--
No byte of a failed append reaches the file; if only the flush in `fclose`
fails, every byte does.
-/
def WritesAllOrNothing (contents : Bytes) (rowValues : List Bytes) :
    Option AppendFault -> Prop
  | none => True
  | some fault =>
      if fault.call = .close then
        (lineSeparator contents ++ csvRow rowValues).length ≤ fault.reached
      else BytesHanded contents rowValues fault.call -> fault.reached = 0

/-!
## The field loop
-/

def FieldCallAhead (index : Nat) (rowValues : List Bytes) :
    AppendCall -> Prop
  | .escape i => index ≤ i ∧ i < index + rowValues.length
  | .comma i => index ≤ i ∧ i < index + rowValues.length ∧ 0 < i
  | .field i => index ≤ i ∧ i < index + rowValues.length
  | _ => False

theorem callFails_some_iff (fault : AppendFault) (call : AppendCall) :
    callFails (some fault) call = true <-> fault.call = call := by
  simp [callFails]

theorem writeFields_fails_iff (fault : AppendFault) (rowValues : List Bytes) :
    forall index,
      (writeFields (some fault) index rowValues).2 ≠ none <->
        FieldCallAhead index rowValues fault.call := by
  induction rowValues with
  | nil =>
      intro index
      cases hcall : fault.call <;> simp [writeFields, FieldCallAhead]
      all_goals omega
  | cons value rest ih =>
      intro index
      have hrest := ih (index + 1)
      unfold writeFields
      simp only [callFails_some_iff]
      by_cases hescape : fault.call = .escape index
      · simp [hescape, FieldCallAhead]
      · by_cases hcomma : 0 < index ∧ fault.call = .comma index
        · simp [hcomma, FieldCallAhead]
        · by_cases hfield : fault.call = .field index
          · simp [hfield, FieldCallAhead]
          · simp only [hescape, hcomma, hfield, if_false]
            rw [hrest]
            cases hcall : fault.call with
            | escape i =>
                have hne : i ≠ index := fun h => hescape (h ▸ hcall)
                simp only [FieldCallAhead, List.length_cons]
                omega
            | comma i =>
                have hne : ¬ (0 < index ∧ i = index) :=
                  fun h => hcomma ⟨h.1, h.2 ▸ hcall⟩
                simp only [FieldCallAhead, List.length_cons]
                omega
            | field i =>
                have hne : i ≠ index := fun h => hfield (h ▸ hcall)
                simp only [FieldCallAhead, List.length_cons]
                omega
            | _ => simp [FieldCallAhead]

theorem writeFields_failed_bytes {fault : AppendFault} {text : Bytes}
    {rowValues : List Bytes} {index : Nat}
    (h : (writeFields (some fault) index rowValues).2 = some text) :
    (writeFields (some fault) index rowValues).1 = [] <->
      fault.call = .escape index := by
  cases rowValues with
  | nil => simp [writeFields] at h
  | cons value rest =>
      unfold writeFields at h ⊢
      simp only [callFails_some_iff] at h ⊢
      by_cases hescape : fault.call = .escape index
      · simp [hescape]
      · by_cases hcomma : 0 < index ∧ fault.call = .comma index
        · simp [hcomma.1, hcomma.2]
        · have hvalue := csvEscapeField_ne_nil value
          by_cases hfield : fault.call = .field index
          · simp [hfield, hvalue]
          · simp [hescape, hcomma, hfield, hvalue]

/-!
## The whole append
-/

section Append

variable {contents : Bytes} {rowValues : List Bytes}

theorem flushed_some_eq_nil_iff (fault : AppendFault) (handed : Bytes) :
    flushed (some fault) handed = [] <->
      (handed ≠ [] -> fault.reached = 0) := by
  unfold flushed
  rw [List.take_eq_nil_iff]
  by_cases hhanded : handed = []
  · simp [hhanded]
  · simp [hhanded]

/-- A call that `append_row_csv` makes before the field loop. -/
def CallMade (contents : Bytes) : AppendCall -> Prop
  | .seekEnd => True
  | .measure => True
  | .inspect => contents ≠ []
  | .rewind => contents ≠ []
  | .separator => lineSeparator contents ≠ []
  | .offset => True
  | _ => False

theorem appendRow_early {fault : AppendFault}
    (h : CallMade contents fault.call) :
    (appendRow contents rowValues (some fault)).2.ok = false ∧
      ((appendRow contents rowValues (some fault)).1 = contents <->
        (BytesHanded contents rowValues fault.call -> fault.reached = 0)) := by
  unfold appendRow
  simp only [callFails_some_iff]
  cases hcall : fault.call with
  | seekEnd => simp [storageFailure, BytesHanded]
  | measure => simp [storageFailure, BytesHanded]
  | inspect =>
      rw [hcall] at h
      simp only [CallMade] at h
      simp [storageFailure, BytesHanded, h]
  | rewind =>
      rw [hcall] at h
      simp only [CallMade] at h
      simp [storageFailure, BytesHanded, h]
  | separator =>
      rw [hcall] at h
      simp only [CallMade] at h
      simp [storageFailure, BytesHanded, h, flushed_some_eq_nil_iff]
  | offset =>
      simp [storageFailure, BytesHanded, flushed_some_eq_nil_iff]
  | escape i => simp [hcall, CallMade] at h
  | comma i => simp [hcall, CallMade] at h
  | field i => simp [hcall, CallMade] at h
  | close => simp [hcall, CallMade] at h

theorem appendRow_early_gains {fault : AppendFault}
    (h : CallMade contents fault.call) :
    exists gained, gained <+: lineSeparator contents ∧
      (appendRow contents rowValues (some fault)).1 = contents ++ gained := by
  have hnothing : [] <+: lineSeparator contents := List.nil_prefix
  have hflushed := flushed_prefix (some fault) (lineSeparator contents)
  unfold appendRow
  simp only [callFails_some_iff]
  cases hcall : fault.call with
  | seekEnd => exact ⟨[], hnothing, (List.append_nil _).symm⟩
  | measure => exact ⟨[], hnothing, (List.append_nil _).symm⟩
  | inspect =>
      rw [hcall] at h
      simp only [CallMade] at h
      exact ⟨[], hnothing, by simp [h]⟩
  | rewind =>
      rw [hcall] at h
      simp only [CallMade] at h
      exact ⟨[], hnothing, by simp [h]⟩
  | separator =>
      rw [hcall] at h
      simp only [CallMade] at h
      exact ⟨_, hflushed, by simp [h]⟩
  | offset => exact ⟨_, hflushed, by simp⟩
  | escape i => simp [hcall, CallMade] at h
  | comma i => simp [hcall, CallMade] at h
  | field i => simp [hcall, CallMade] at h
  | close => simp [hcall, CallMade] at h

theorem appendRow_late {fault : AppendFault} {written : Bytes}
    {error : Option Bytes} (h : ¬ CallMade contents fault.call)
    (hwrite : writeFields (some fault) 0 rowValues = (written, error)) :
    (forall text, error = some text ->
        appendRow contents rowValues (some fault) =
          (contents ++ flushed (some fault) (lineSeparator contents ++ written),
            storageFailure (contents ++ lineSeparator contents).length text)) ∧
      (error = none ->
        appendRow contents rowValues (some fault) =
          (contents ++
              (if callFails (some fault) .close then
                flushed (some fault) (lineSeparator contents ++ written)
              else lineSeparator contents ++ written),
            { ok := true
              message := ascii "INSERT 1"
              affectedRows := 1
              rowOffset := (contents ++ lineSeparator contents).length })) := by
  have hnot : forall call, CallMade contents call ->
      ¬ callFails (some fault) call = true := by
    intro call hcall hfails
    rw [callFails_some_iff] at hfails
    exact h (hfails ▸ hcall)
  have hinspect : ¬ (contents ≠ [] ∧ callFails (some fault) .inspect = true) :=
    fun hcall => hnot .inspect hcall.1 hcall.2
  have hrewind : ¬ (contents ≠ [] ∧ callFails (some fault) .rewind = true) :=
    fun hcall => hnot .rewind hcall.1 hcall.2
  have hseparator : ¬ (lineSeparator contents ≠ [] ∧
      callFails (some fault) .separator = true) :=
    fun hcall => hnot .separator hcall.1 hcall.2
  unfold appendRow
  simp only
  rw [if_neg (hnot .seekEnd trivial), if_neg (hnot .measure trivial),
    if_neg hinspect, if_neg hrewind, if_neg hseparator,
    if_neg (hnot .offset trivial), hwrite]
  constructor
  · intro text htext
    rw [htext]
  · intro hnone
    rw [hnone]

theorem bytesHanded_iff_ahead {call : AppendCall} (h : ¬ CallMade contents call)
    (hclose : call ≠ .close) :
    BytesHanded contents rowValues call <->
      FieldCallAhead 0 rowValues call ∧
        ¬ (call = .escape 0 ∧ lineSeparator contents = []) := by
  cases call with
  | seekEnd => simp [CallMade] at h
  | measure => simp [CallMade] at h
  | inspect => simp [BytesHanded, FieldCallAhead]
  | rewind => simp [BytesHanded, FieldCallAhead]
  | separator => simpa [CallMade, BytesHanded, FieldCallAhead] using h
  | offset => simp [CallMade] at h
  | escape i =>
      by_cases hzero : i = 0
      · simp [BytesHanded, FieldCallAhead, hzero]
      · have hpos : 0 < i := Nat.pos_of_ne_zero hzero
        simp [BytesHanded, FieldCallAhead, hzero, hpos]
  | comma i =>
      simp only [BytesHanded, FieldCallAhead, reduceCtorEq, false_and,
        not_false_eq_true, and_true]
      omega
  | field i => simp [BytesHanded, FieldCallAhead]
  | close => exact absurd rfl hclose

/--
An append that reports success has the whole row in the file, and one that
reports failure has left the file alone, exactly when it writes all or nothing.
-/
theorem appendRow_truthful_iff (fault : Option AppendFault) :
    ((appendRow contents rowValues fault).2.ok = true ->
        (WritesAllOrNothing contents rowValues fault <->
          (appendRow contents rowValues fault).1 =
            contents ++ lineSeparator contents ++ csvRow rowValues)) ∧
      ((appendRow contents rowValues fault).2.ok = false ->
        (WritesAllOrNothing contents rowValues fault <->
          (appendRow contents rowValues fault).1 = contents)) := by
  cases fault with
  | none =>
      have hok := appendRow_noFault contents rowValues
      constructor
      · intro _
        simp [WritesAllOrNothing, (appendRow_ok hok rfl).2]
      · intro hfailed
        rw [hok] at hfailed
        cases hfailed
  | some fault =>
      by_cases hmade : CallMade contents fault.call
      · rcases @appendRow_early contents rowValues fault hmade with
          ⟨hfailed, hsame⟩
        have hclose : fault.call ≠ .close := by
          intro hcall
          simp [hcall, CallMade] at hmade
        constructor
        · intro hok
          rw [hfailed] at hok
          cases hok
        · intro _
          simp only [WritesAllOrNothing, hclose, if_false]
          exact hsame.symm
      · have hfails := writeFields_fails_iff fault rowValues 0
        rcases hwrite : writeFields (some fault) 0 rowValues with
          ⟨written, _ | text⟩
        · have hlate := (appendRow_late hmade hwrite).2 rfl
          rw [hwrite] at hfails
          simp only at hfails
          have hwritten : written = csvRow rowValues := by
            have hcomplete := @writeFields_complete (some fault) rowValues 0
              (by rw [hwrite])
            simpa [hwrite] using hcomplete
          rw [hlate]
          constructor
          · intro _
            by_cases hclose : fault.call = .close
            · have hcloses : callFails (some fault) .close = true :=
                (callFails_some_iff fault .close).mpr hclose
              simp only [WritesAllOrNothing, hclose, if_true, hcloses, hwritten,
                flushed, List.append_assoc, List.append_cancel_left_eq]
              exact (List.take_eq_self_iff _).symm
            · have hcloses : ¬ callFails (some fault) .close = true :=
                fun h => hclose ((callFails_some_iff fault .close).mp h)
              have hnot : ¬ BytesHanded contents rowValues fault.call := by
                rw [bytesHanded_iff_ahead hmade hclose, ← hfails]
                simp
              simp [WritesAllOrNothing, hclose, hcloses, hwritten, hnot]
          · intro hfailed
            cases hfailed
        · have hlate := (appendRow_late hmade hwrite).1 text rfl
          rw [hwrite] at hfails
          simp only at hfails
          have hahead : FieldCallAhead 0 rowValues fault.call :=
            hfails.mp (by simp)
          have hclose : fault.call ≠ .close := by
            intro hcall
            simp [hcall, FieldCallAhead] at hahead
          have hempty := @writeFields_failed_bytes fault text rowValues 0
            (by rw [hwrite])
          rw [hwrite] at hempty
          simp only at hempty
          rw [hlate]
          constructor
          · intro hok
            cases hok
          · intro _
            simp only [WritesAllOrNothing, hclose, if_false,
              List.append_right_eq_self, flushed_some_eq_nil_iff, ne_eq,
              List.append_eq_nil_iff, hempty]
            rw [bytesHanded_iff_ahead hmade hclose]
            tauto

theorem appendRow_close_ok {fault : AppendFault} (hclose : fault.call = .close) :
    (appendRow contents rowValues (some fault)).2.ok = true := by
  have hmade : ¬ CallMade contents fault.call := by
    simp [hclose, CallMade]
  have hfails := writeFields_fails_iff fault rowValues 0
  rcases hwrite : writeFields (some fault) 0 rowValues with ⟨written, _ | text⟩
  · rw [(appendRow_late hmade hwrite).2 rfl]
  · rw [hwrite] at hfails
    have hahead := hfails.mp (by simp)
    simp [hclose, FieldCallAhead] at hahead

theorem appendRow_reported {fault : Option AppendFault}
    (hok : (appendRow contents rowValues fault).2.ok = true) :
    (appendRow contents rowValues fault).2.rowOffset =
        (contents ++ lineSeparator contents).length ∧
      (appendRow contents rowValues fault).1 <+:
        contents ++ lineSeparator contents ++ csvRow rowValues ∧
      ((forall reached, fault ≠ some { call := .close, reached := reached }) ->
        (appendRow contents rowValues fault).1 =
          contents ++ lineSeparator contents ++ csvRow rowValues) := by
  by_cases hclose : callFails fault .close = true
  · rcases callFails_eq_true hclose with ⟨reached, hfault⟩
    subst hfault
    have hmade : ¬ CallMade contents
        ({ call := .close, reached := reached } : AppendFault).call :=
      fun h => h
    have hfails := writeFields_fails_iff
      { call := .close, reached := reached } rowValues 0
    rcases hwrite : writeFields (some { call := .close, reached := reached }) 0
        rowValues with
      ⟨written, _ | text⟩
    · have hcomplete := @writeFields_complete
        (some { call := .close, reached := reached }) rowValues 0
        (by rw [hwrite])
      have hwritten : written = csvRow rowValues := by
        simpa [hwrite] using hcomplete
      rw [(appendRow_late hmade hwrite).2 rfl]
      refine ⟨rfl, ?_, fun hnot => absurd rfl (hnot reached)⟩
      simp only [hclose, if_true, hwritten, List.append_assoc,
        List.prefix_append_right_inj]
      exact flushed_prefix _ _
    · rw [hwrite] at hfails
      have hahead := hfails.mp (by simp)
      simp [FieldCallAhead] at hahead
  · have hcomplete := appendRow_ok hok (by simpa using hclose)
    refine ⟨hcomplete.1, ?_, fun _ => hcomplete.2⟩
    exact hcomplete.2.symm ▸ List.prefix_rfl

def storedRow (contents : Bytes) (rowValues : List Bytes) :
    Option AppendFault -> Bytes
  | none => csvRow rowValues
  | some fault =>
      if fault.call = .close then
        (csvRow rowValues).take (fault.reached - (lineSeparator contents).length)
      else csvRow rowValues

theorem storedRow_starts (fault : Option AppendFault) :
    storedRow contents rowValues fault <+: csvRow rowValues := by
  unfold storedRow
  split
  · exact List.prefix_rfl
  · split
    · exact List.take_prefix ..
    · exact List.prefix_rfl

theorem storedRow_of_close {fault : Option AppendFault}
    (h : callFails fault .close = false) :
    storedRow contents rowValues fault = csvRow rowValues := by
  unfold storedRow
  split
  · rfl
  · next fault =>
      have hcall : fault.call ≠ .close := by
        intro hcall
        rw [(callFails_some_iff fault .close).mpr hcall] at h
        cases h
      rw [if_neg hcall]

theorem appendRow_stored {fault : Option AppendFault}
    (hok : (appendRow contents rowValues fault).2.ok = true) :
    (appendRow contents rowValues fault).2.rowOffset =
        (contents ++ lineSeparator contents).length ∧
      ((appendRow contents rowValues fault).1 =
          contents ++ lineSeparator contents ++ storedRow contents rowValues fault ∨
        storedRow contents rowValues fault = [] ∧ exists gained,
          gained <+: lineSeparator contents ∧
            (appendRow contents rowValues fault).1 = contents ++ gained) := by
  refine ⟨(appendRow_reported hok).1, ?_⟩
  by_cases hclose : callFails fault .close = true
  · rcases callFails_eq_true hclose with ⟨reached, rfl⟩
    have hmade : ¬ CallMade contents
        ({ call := .close, reached := reached } : AppendFault).call :=
      fun h => h
    have hfails := writeFields_fails_iff
      { call := .close, reached := reached } rowValues 0
    rcases hwrite : writeFields (some { call := .close, reached := reached }) 0
        rowValues with
      ⟨written, _ | text⟩
    · have hcomplete := @writeFields_complete
        (some { call := .close, reached := reached }) rowValues 0
        (by rw [hwrite])
      have hwritten : written = csvRow rowValues := by
        simpa [hwrite] using hcomplete
      have hnew := congrArg Prod.fst ((appendRow_late hmade hwrite).2 rfl)
      simp only [hclose, if_true, hwritten, flushed, List.take_append] at hnew
      rw [hnew]
      simp only [storedRow, if_true]
      rcases Nat.lt_or_ge reached (lineSeparator contents).length with hcut | hwhole
      · refine .inr ⟨?_, (lineSeparator contents).take reached, List.take_prefix .., ?_⟩
        · rw [Nat.sub_eq_zero_of_le (Nat.le_of_lt hcut), List.take_zero]
        · rw [Nat.sub_eq_zero_of_le (Nat.le_of_lt hcut), List.take_zero, List.append_nil]
      · left
        rw [List.take_of_length_le hwhole, List.append_assoc]
    · rw [hwrite] at hfails
      have hahead := hfails.mp (by simp)
      simp [FieldCallAhead] at hahead
  · have hopen : callFails fault .close = false := Bool.eq_false_iff.mpr hclose
    rw [storedRow_of_close hopen]
    exact .inl (appendRow_ok hok hopen).2

theorem appendRow_dataLines {fault : Option AppendFault} (hne : contents ≠ [])
    (hok : (appendRow contents rowValues fault).2.ok = true) :
    headerText (appendRow contents rowValues fault).1 = headerText contents ∧
      dataLines (appendRow contents rowValues fault).1 =
        dataLines contents ++
          linesWritten (contents ++ lineSeparator contents).length
            (storedRow contents rowValues fault) := by
  rcases appendRow_stored hok with ⟨_, hnew | ⟨hempty, gained, hgained, hnew⟩⟩
  · rw [hnew]
    exact dataLines_append hne _
  · rw [hnew, hempty]
    have hsame := dataLines_append_separator hne hgained
    refine ⟨hsame.1, hsame.2.trans ?_⟩
    simp [linesWritten, withOffsets, textLines]

def AppendReports (contents : Bytes) (rowValues : List Bytes) :
    Option AppendFault -> Prop
  | none => True
  | some fault =>
      ¬ CallMade contents fault.call ∧ ¬ FieldCallAhead 0 rowValues fault.call

/--
What an append leaves of its row: nothing, if a call of the field loop fails; one line,
if no call before the close does.
-/
structure AppendsOneRow (contents : Bytes) (rowValues : List Bytes)
    (fault : Option AppendFault) : Prop where
  cut : forall failing, fault = some failing ->
    FieldCallAhead 0 rowValues failing.call ->
      failing.reached ≤ (lineSeparator contents).length
  stored : AppendReports contents rowValues fault ->
    exists fields, OneRow (storedRow contents rowValues fault) fields

theorem appendReports_of_ok {fault : Option AppendFault}
    (hok : (appendRow contents rowValues fault).2.ok = true) :
    AppendReports contents rowValues fault := by
  cases fault with
  | none => trivial
  | some fault =>
      constructor
      · intro hmade
        rw [(appendRow_early hmade).1] at hok
        cases hok
      · intro hahead
        have hmade : ¬ CallMade contents fault.call := by
          intro hmade
          cases hcall : fault.call <;>
            simp [hcall, CallMade, FieldCallAhead] at hmade hahead
        have hfails := (writeFields_fails_iff fault rowValues 0).mpr hahead
        rcases hwrite : writeFields (some fault) 0 rowValues with ⟨written, _ | text⟩
        · rw [hwrite] at hfails
          exact hfails rfl
        · rw [(appendRow_late hmade hwrite).1 text rfl] at hok
          cases hok

/--
An append either succeeds with one more row in the file, or fails and the file has at
most gained the line feed in front of the row.
-/
theorem appendRow_outcome {fault : Option AppendFault}
    (hrow : AppendsOneRow contents rowValues fault) :
    ((appendRow contents rowValues fault).2.ok = true ∧
        (appendRow contents rowValues fault).2.rowOffset =
          (contents ++ lineSeparator contents).length ∧
        (appendRow contents rowValues fault).1 =
          contents ++ lineSeparator contents ++ storedRow contents rowValues fault ∧
        exists fields, OneRow (storedRow contents rowValues fault) fields) ∨
      ((appendRow contents rowValues fault).2.ok = false ∧
        exists gained,
          gained <+: lineSeparator contents ∧
            (appendRow contents rowValues fault).1 = contents ++ gained) := by
  cases hok : (appendRow contents rowValues fault).2.ok with
  | true =>
      rcases hrow.stored (appendReports_of_ok hok) with ⟨fields, hone⟩
      rcases appendRow_stored hok with ⟨hoffset, hnew | ⟨hempty, _⟩⟩
      · exact .inl ⟨rfl, hoffset, hnew, fields, hone⟩
      · exact absurd hempty hone.ne_nil
  | false =>
      refine .inr ⟨rfl, ?_⟩
      cases fault with
      | none =>
          rw [appendRow_noFault] at hok
          cases hok
      | some fault =>
          by_cases hmade : CallMade contents fault.call
          · exact appendRow_early_gains hmade
          · rcases hwrite : writeFields (some fault) 0 rowValues with ⟨written, _ | text⟩
            · rw [(appendRow_late hmade hwrite).2 rfl] at hok
              cases hok
            · have hahead := (writeFields_fails_iff fault rowValues 0).mp
                (by rw [hwrite]; exact Option.some_ne_none text)
              rw [(appendRow_late hmade hwrite).1 text rfl]
              refine ⟨flushed (some fault) (lineSeparator contents),
                flushed_prefix _ _, ?_⟩
              simp only [flushed]
              rw [List.take_append_of_le_length (hrow.cut fault rfl hahead)]

end Append

end Storage
end SqlCsvServer
