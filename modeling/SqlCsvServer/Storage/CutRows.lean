import SqlCsvServer.Storage.Csv

/-!
# Rows that are cut short

If the last flush of `append_row_csv` fails, a beginning of the row is in the file.
Its values can still be read back if only the two quotes of an empty last value are
missing, and from no other beginning.
-/

namespace SqlCsvServer
namespace Storage

open Foundation Common

/-!
## Fields that are cut
-/

theorem csvParseLoop_adds {inQuotes justClosedQuote : Bool} {buffer : Option Bytes}
    {fields result : List Bytes} {text : Bytes}
    (h : csvParseLoop inQuotes justClosedQuote buffer fields text = .ok result) :
    exists added, added ≠ [] ∧ result = fields ++ added := by
  revert h
  fun_induction csvParseLoop inQuotes justClosedQuote buffer fields text with
  | case1 => exact fun h => nomatch h
  | case2 inQuotes justClosedQuote buffer fields _ =>
      exact fun h => ⟨_, List.cons_ne_nil _ _, (Except.ok.inj h).symm⟩
  | case3 _ _ _ ih => exact ih
  | case4 _ _ _ _ ih => exact ih
  | case5 _ _ _ _ _ _ ih => exact ih
  | case6 _ _ _ _ _ _ ih => exact ih
  | case7 _ _ _ _ _ _ ih =>
      intro h
      rcases ih h with ⟨added, _, rfl⟩
      exact ⟨_ :: added, List.cons_ne_nil _ _, by rw [List.append_assoc]; rfl⟩
  | case8 _ _ _ _ _ _ _ _ _ ih => exact ih
  | case9 => exact fun h => nomatch h
  | case10 _ _ _ _ _ _ _ _ _ _ _ ih => exact ih
  | case11 _ _ _ _ _ _ _ _ _ _ _ ih => exact ih

theorem csvParseLoop_quoted_cut (justClosedQuote : Bool) (fields : List Bytes)
    {value : Bytes} : forall {buffer : Option Bytes} {text : Bytes} {result : List Bytes},
      text <+: doubleQuotes value ++ [Byte.doubleQuote] ->
        csvParseLoop true justClosedQuote buffer fields text = .ok result ->
          exists field, result = fields ++ [field] ∧
            (field = buffer.getD [] ++ value ->
              text = doubleQuotes value ++ [Byte.doubleQuote]) := by
  have hclosed : forall (buffer : Option Bytes) {result : List Bytes},
      csvParseLoop true justClosedQuote buffer fields [Byte.doubleQuote] = .ok result ->
        result = fields ++ [buffer.getD []] := by
    intro buffer result h
    rw [csvParseLoop.eq_def] at h
    simp only [if_true, csvParseLoop, fieldText, Bool.false_eq_true, if_false,
      Except.ok.injEq] at h
    exact h.symm
  induction value with
  | nil =>
      intro buffer text result hcut h
      rcases List.prefix_cons_iff.mp hcut with rfl | ⟨rest, rfl, hrest⟩
      · cases h
      · rw [List.prefix_nil.mp hrest] at h ⊢
        exact ⟨_, hclosed buffer h, fun _ => rfl⟩
  | cons b value ih =>
      intro buffer text result hcut h
      by_cases hb : b = Byte.doubleQuote
      · subst hb
        have hdouble : doubleQuotes (Byte.doubleQuote :: value) ++ [Byte.doubleQuote] =
            Byte.doubleQuote :: Byte.doubleQuote ::
              (doubleQuotes value ++ [Byte.doubleQuote]) := by
          simp [doubleQuotes]
        rw [hdouble] at hcut ⊢
        rcases List.prefix_cons_iff.mp hcut with rfl | ⟨rest, rfl, hrest⟩
        · cases h
        · rcases List.prefix_cons_iff.mp hrest with rfl | ⟨after, rfl, hafter⟩
          · refine ⟨_, hclosed buffer h, fun hsame => ?_⟩
            have hlength := congrArg List.length hsame
            simp at hlength
          · rw [csvParseLoop.eq_def] at h
            simp only [if_true] at h
            rcases ih hafter h with ⟨field, hresult, hwhole⟩
            refine ⟨field, hresult, fun hsame => ?_⟩
            rw [hwhole (by rw [hsame]; simp [appendCharacter])]
      · have hdouble : doubleQuotes (b :: value) ++ [Byte.doubleQuote] =
            b :: (doubleQuotes value ++ [Byte.doubleQuote]) := by
          simp [doubleQuotes, hb]
        rw [hdouble] at hcut ⊢
        rcases List.prefix_cons_iff.mp hcut with rfl | ⟨rest, rfl, hrest⟩
        · cases h
        · rw [csvParseLoop.eq_def] at h
          simp only [if_true, hb, if_false] at h
          rcases ih hrest h with ⟨field, hresult, hwhole⟩
          refine ⟨field, hresult, fun hsame => ?_⟩
          rw [hwhole (by rw [hsame]; simp [appendCharacter])]

theorem trimWhitespace_length_le (text : Bytes) :
    (trimWhitespace text).length ≤ text.length :=
  Nat.le_trans (List.rdropWhile_prefix (p := isSpace) (text.dropWhile isSpace)).length_le
    (List.dropWhile_suffix isSpace).length_le

theorem csvParseLoop_field_cut {fields result : List Bytes} {value text : Bytes}
    (hcut : text <+: csvEscapeField value)
    (h : csvParseLoop false false none fields text = .ok result) :
    exists field, result = fields ++ [field] ∧
      (field = value -> text = csvEscapeField value ∨ text = [] ∧ value = []) := by
  have hcomma : Byte.doubleQuote ≠ Byte.comma := by decide
  have hnothing : csvParseLoop false false none fields [] = .ok (fields ++ [[]]) := rfl
  have hquoted : forall {value : Bytes},
      text <+: Byte.doubleQuote :: (doubleQuotes value ++ [Byte.doubleQuote]) ->
        exists field, result = fields ++ [field] ∧
          (field = value ->
            text = Byte.doubleQuote :: (doubleQuotes value ++ [Byte.doubleQuote]) ∨
              text = [] ∧ value = []) := by
    intro value hcut
    rcases List.prefix_cons_iff.mp hcut with rfl | ⟨rest, rfl, hrest⟩
    · rw [hnothing, Except.ok.injEq] at h
      exact ⟨[], h.symm, fun hsame => .inr ⟨rfl, hsame.symm⟩⟩
    · rw [csvParseLoop.eq_def] at h
      simp only [Bool.false_eq_true, if_false, hcomma, and_self, if_true] at h
      rcases csvParseLoop_quoted_cut false fields hrest h with ⟨field, hresult, hwhole⟩
      exact ⟨field, hresult, fun hsame => .inl (by rw [hwhole (by simpa using hsame)])⟩
  unfold csvEscapeField at hcut ⊢
  by_cases hempty : value = []
  · subst hempty
    rw [if_pos rfl] at hcut ⊢
    exact hquoted hcut
  · rw [if_neg hempty] at hcut ⊢
    by_cases hspecial : value.any forcesQuotes = true
    · rw [if_pos hspecial] at hcut ⊢
      exact hquoted hcut
    · rw [if_neg hspecial] at hcut ⊢
      have hplain : text.any forcesQuotes = false := by
        rw [List.any_eq_false]
        rw [List.any_eq_true] at hspecial
        exact fun b hb hforces => hspecial ⟨b, hcut.subset hb, hforces⟩
      have hparse := csvParseLoop_plain fields text [] hplain none
      rw [List.append_nil, h, csvParseLoop.eq_def] at hparse
      simp only [Bool.false_eq_true, if_false, fieldText, appendCharacters_none_getD,
        Except.ok.injEq] at hparse
      refine ⟨_, hparse, fun hsame => .inl (hcut.eq_of_length_le ?_)⟩
      rw [← hsame]
      exact trimWhitespace_length_le text

/-!
## Rows that are cut
-/

def KeepsOuterBlanks (value : Bytes) : Prop :=
  value.any forcesQuotes = true ∨ trimWhitespace value = value

instance (value : Bytes) : Decidable (KeepsOuterBlanks value) :=
  inferInstanceAs (Decidable (_ ∨ _))

def ReachesFile (text : Bytes) (values : List Bytes) : Prop :=
  text = csvRow values ∨
    exists front, front ≠ [] ∧ values = front ++ [[]] ∧ text = csvRow front ++ [Byte.comma]

theorem ReachesFile.ne_nil {text : Bytes} {values : List Bytes}
    (h : ReachesFile text values) (hvalues : values ≠ []) : text ≠ [] := by
  rcases h with rfl | ⟨front, _, _, rfl⟩
  · exact csvRow_ne_nil hvalues
  · exact List.append_ne_nil_of_right_ne_nil _ (List.cons_ne_nil _ _)

theorem csvRow_cut {values : List Bytes} (hvalues : values ≠ []) :
    forall {text : Bytes} {fields : List Bytes}, text <+: csvRow values ->
      csvParseLoop false false none fields text = .ok (fields ++ values) ->
        text = csvRow values ∨ exists front, values = front ++ [[]] ∧
          text = if front = [] then [] else csvRow front ++ [Byte.comma] := by
  induction values with
  | nil => exact absurd rfl hvalues
  | cons value rest ih =>
      intro text fields hcut h
      cases rest with
      | nil =>
          rcases csvParseLoop_field_cut hcut h with ⟨field, hresult, hwhole⟩
          have hfield := List.append_cancel_left hresult
          rw [List.cons.injEq] at hfield
          rcases hwhole hfield.1.symm with hsame | ⟨rfl, rfl⟩
          · exact .inl hsame
          · exact .inr ⟨[], rfl, (if_pos rfl).symm⟩
      | cons second rest =>
          have hrow : csvRow (value :: second :: rest) =
              csvEscapeField value ++ Byte.comma :: csvRow (second :: rest) := rfl
          rw [hrow] at hcut ⊢
          have hshort : ¬ text <+: csvEscapeField value := by
            intro hshort
            rcases csvParseLoop_field_cut hshort h with ⟨field, hresult, _⟩
            have hlength := congrArg List.length (List.append_cancel_left hresult)
            simp at hlength
          rcases List.prefix_or_prefix_of_prefix hcut (List.prefix_append _ _) with
            hfield | ⟨tail, rfl⟩
          · exact absurd hfield hshort
          · rw [List.prefix_append_right_inj] at hcut
            rcases List.prefix_cons_iff.mp hcut with rfl | ⟨tail, rfl, htail⟩
            · rw [List.append_nil] at hshort
              exact absurd List.prefix_rfl hshort
            · rcases csvParseLoop_field fields value (Byte.comma :: tail) (by simp; decide)
                with ⟨justClosedQuote, buffer, htext, hparse⟩
              rw [h, csvParseLoop.eq_def] at hparse
              simp only [Bool.false_eq_true, if_false, if_true, htext] at hparse
              rcases csvParseLoop_adds hparse.symm with ⟨added, _, hadded⟩
              rw [List.append_assoc] at hadded
              have hfirst := List.append_cancel_left hadded
              rw [List.singleton_append, List.cons.injEq] at hfirst
              have hrest : csvParseLoop false false none (fields ++ [csvReadBack value])
                  tail = .ok ((fields ++ [csvReadBack value]) ++ (second :: rest)) := by
                rw [← hparse, ← hfirst.1, List.append_assoc]
                rfl
              rcases ih (List.cons_ne_nil _ _) htail hrest with rfl | ⟨front, hfront, rfl⟩
              · exact .inl rfl
              · refine .inr ⟨value :: front, by rw [hfront]; rfl, ?_⟩
                rw [if_neg (List.cons_ne_nil _ _)]
                cases front with
                | nil => rfl
                | cons third front =>
                    rw [if_neg (List.cons_ne_nil _ _)]
                    simp only [csvRow, List.append_assoc, List.cons_append]

theorem csvParseLoop_row_comma {values : List Bytes} (hvalues : values ≠ []) (rest : Bytes) :
    forall fields : List Bytes,
      csvParseLoop false false none fields (csvRow values ++ Byte.comma :: rest) =
        csvParseLoop false false none (fields ++ values.map csvReadBack) rest := by
  have hfield : forall (fields : List Bytes) (value rest : Bytes),
      csvParseLoop false false none fields (csvEscapeField value ++ Byte.comma :: rest) =
        csvParseLoop false false none (fields ++ [csvReadBack value]) rest := by
    intro fields value rest
    rcases csvParseLoop_field fields value (Byte.comma :: rest) (by simp; decide) with
      ⟨justClosedQuote, buffer, htext, hparse⟩
    rw [hparse, csvParseLoop.eq_def]
    simp only [Bool.false_eq_true, if_false, if_true, htext]
  induction values with
  | nil => exact absurd rfl hvalues
  | cons value others ih =>
      intro fields
      cases others with
      | nil => exact hfield fields value rest
      | cons second others =>
          have hrow : csvRow (value :: second :: others) ++ Byte.comma :: rest =
              csvEscapeField value ++ Byte.comma ::
                (csvRow (second :: others) ++ Byte.comma :: rest) := by
            simp only [csvRow, List.append_assoc, List.cons_append]
          rw [hrow, hfield, ih (List.cons_ne_nil _ _), List.append_assoc]
          rfl

theorem map_csvReadBack_eq_self_iff {values : List Bytes} :
    values.map csvReadBack = values <-> forall value, value ∈ values ->
      KeepsOuterBlanks value := by
  conv_lhs =>
    rhs
    rw [← List.map_id values]
  rw [List.map_inj_left]
  simp [csvReadBack_eq_self_iff, KeepsOuterBlanks]

theorem csvParseLine_cut_iff {values : List Bytes} (hvalues : values ≠ []) {text : Bytes}
    (hcut : text <+: csvRow values) (hne : text ≠ []) :
    csvParseLine text = .ok values <->
      ReachesFile text values ∧ forall value, value ∈ values -> KeepsOuterBlanks value := by
  have hblank : KeepsOuterBlanks [] := .inr rfl
  constructor
  · intro h
    rcases csvRow_cut hvalues hcut h with hwhole | ⟨front, hfront, htext⟩
    · refine ⟨.inl hwhole, map_csvReadBack_eq_self_iff.mp ?_⟩
      rw [hwhole, csvParseLine_csvRow hvalues, Except.ok.injEq] at h
      exact h
    · by_cases hempty : front = []
      · rw [if_pos hempty] at htext
        exact absurd htext hne
      · rw [if_neg hempty] at htext
        refine ⟨.inr ⟨front, hempty, hfront, htext⟩, ?_⟩
        rw [csvParseLine, htext, csvParseLoop_row_comma hempty] at h
        have hfields : front.map csvReadBack ++ [[]] = values := Except.ok.inj h
        rw [hfront] at hfields
        have hkept := map_csvReadBack_eq_self_iff.mp (List.append_cancel_right hfields)
        intro value hvalue
        rw [hfront] at hvalue
        rcases List.mem_append.mp hvalue with hvalue | hvalue
        · exact hkept value hvalue
        · rw [List.mem_singleton.mp hvalue]
          exact hblank
  · rintro ⟨rfl | ⟨front, hempty, rfl, rfl⟩, hkept⟩
    · rw [csvParseLine_csvRow hvalues, map_csvReadBack_eq_self_iff.mpr hkept]
    · have hfront := map_csvReadBack_eq_self_iff.mpr
        fun value hvalue => hkept value (List.mem_append_left _ hvalue)
      rw [csvParseLine, csvParseLoop_row_comma hempty, hfront]
      rfl

end Storage
end SqlCsvServer
