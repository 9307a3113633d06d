import SqlCsvServer.Api.FlatObject

/-!
# What a client writes as JSON is read back
-/

namespace SqlCsvServer
namespace Api

open Foundation Common Http

/-!
## Objects a client writes
-/

/-- The members of an object, each part passed through `http_json_escape`. -/
inductive SerializedMembers : List (Bytes × Bytes) -> Bytes -> Prop where
  | none : SerializedMembers [] []
  | last {key value colon : Bytes} (hcolon : JsonMark 0x3A colon) :
      SerializedMembers [(key, value)]
        (jsonQuoted (httpJsonEscape key) ++ (colon ++ jsonQuoted (httpJsonEscape value)))
  | cons {key value colon comma rest : Bytes} {next : Bytes × Bytes}
      {more : List (Bytes × Bytes)} (hcolon : JsonMark 0x3A colon)
      (hcomma : JsonMark 0x2C comma) (hmore : SerializedMembers (next :: more) rest) :
      SerializedMembers ((key, value) :: next :: more)
        (jsonQuoted (httpJsonEscape key) ++
          (colon ++ jsonQuoted (httpJsonEscape value)) ++ comma ++ rest)

/-- An object, with any blanks between its tokens. -/
inductive SerializedObject (pairs : List (Bytes × Bytes)) : Bytes -> Prop where
  | blanks {left opening members closing right : Bytes} (hleft : JsonBlank left)
      (hopening : JsonMark 0x7B opening) (hmembers : SerializedMembers pairs members)
      (hclosing : JsonMark 0x7D closing) (hright : JsonBlank right) :
      SerializedObject pairs (left ++ opening ++ members ++ closing ++ right)

def pairField (pair : Bytes × Bytes) : Field :=
  { name := pair.1
    label := httpJsonEscape pair.1
    value := .quoted pair.2 (httpJsonEscape pair.2) }

theorem fieldChars_escaped (value : Bytes) :
    FieldChars value (httpJsonEscape value) := by
  induction value with
  | nil => exact .nil
  | cons b value ih =>
      unfold httpJsonEscape at ih ⊢
      rw [List.flatMap_cons]
      unfold jsonEscapeByte
      split
      · next hbyte =>
          rw [hbyte]
          exact .escape rfl ih
      · next hbackslash =>
          split
          · next hbyte =>
              rw [hbyte]
              exact .escape rfl ih
          · next hquote =>
              split
              · next hbyte =>
                  rw [hbyte]
                  exact .escape rfl ih
              · split
                · next hbyte =>
                    rw [hbyte]
                    exact .escape rfl ih
                · split
                  · next hbyte =>
                      rw [hbyte]
                      exact .escape rfl ih
                  · exact .plain hquote hbackslash ih

theorem pairField_written {key value colon : Bytes} (hcolon : JsonMark 0x3A colon) :
    (pairField (key, value)).Written
      (jsonQuoted (httpJsonEscape key) ++
        (colon ++ jsonQuoted (httpJsonEscape value))) :=
  .parts (fieldChars_escaped key) hcolon (.quoted (fieldChars_escaped value))

theorem SerializedMembers.objectRest {pairs : List (Bytes × Bytes)} {members : Bytes}
    (h : SerializedMembers pairs members) {before closing right : Bytes}
    (hbefore : JsonBlank before) (hclosing : JsonMark 0x7D closing)
    (hright : JsonBlank right) :
    ObjectRest (pairs.map pairField) false (before ++ (members ++ (closing ++ right))) := by
  induction h generalizing before with
  | none =>
      cases hclosing with
      | @blanks left behind hleft hbehind =>
          have hrest := ObjectRest.close (hbefore.append hleft) (hbehind.append hright)
          simpa only [List.map_nil, List.nil_append, List.append_assoc,
            List.cons_append] using hrest
  | @last key value colon hcolon =>
      cases hclosing with
      | @blanks left behind hleft hbehind =>
          have hrest := ObjectRest.last hbefore (@pairField_written key value colon hcolon)
            (.close hleft (hbehind.append hright))
          simpa only [List.map_cons, List.map_nil, List.append_assoc,
            List.cons_append] using hrest
  | @cons key value colon comma rest next more hcolon hcomma hmore ih =>
      cases hcomma with
      | @blanks left behind hleft hbehind =>
          have hrest := ObjectRest.more hbefore (@pairField_written key value colon hcolon) hleft
            (ih hbehind)
          simpa only [List.map_cons, List.append_assoc, List.cons_append] using hrest

theorem SerializedObject.flat {pairs : List (Bytes × Bytes)} {text : Bytes}
    (h : SerializedObject pairs text) : FlatObject (pairs.map pairField) false text := by
  cases h with
  | @blanks left opening members closing right hleft hopening hmembers hclosing hright =>
      cases hopening with
      | @blanks before behind hbefore hbehind =>
          have hflat := FlatObject.blanks (hleft.append hbefore)
            (hmembers.objectRest hbehind hclosing hright)
          simpa only [List.append_assoc, List.cons_append] using hflat

theorem httpJsonEscape_nulFree {value : Bytes} (h : NulFree value) :
    NulFree (httpJsonEscape value) := by
  intro hmem
  rcases List.mem_flatMap.mp hmem with ⟨b, hb, hnul⟩
  have hbyte : forall b : Byte, Byte.nul ∈ jsonEscapeByte b -> b = Byte.nul := by
    decide +kernel
  rw [hbyte b hnul] at hb
  exact h hb

theorem nulFree_append {left right : Bytes} :
    NulFree (left ++ right) <-> NulFree left ∧ NulFree right := by
  unfold NulFree
  rw [List.mem_append, not_or]

theorem jsonQuoted_nulFree {text : Bytes} (h : NulFree text) :
    NulFree (jsonQuoted text) := by
  unfold jsonQuoted
  intro hmem
  rcases List.mem_cons.mp hmem with hquote | hmem
  · cases hquote
  · rcases List.mem_append.mp hmem with hmem | hquote
    · exact h hmem
    · cases List.mem_singleton.mp hquote

theorem jsonBlank_nulFree {text : Bytes} (h : JsonBlank text) : NulFree text := by
  intro hmem
  rcases h _ hmem with hbyte | hbyte | hbyte | hbyte
  all_goals cases hbyte

theorem jsonMark_nulFree {b : Byte} {text : Bytes} (hb : Byte.nul ≠ b)
    (h : JsonMark b text) : NulFree text := by
  cases h with
  | blanks hleft hright =>
      rw [nulFree_append]
      refine ⟨jsonBlank_nulFree hleft, fun hmem => ?_⟩
      rcases List.mem_cons.mp hmem with hbyte | hmem
      · exact hb hbyte
      · exact jsonBlank_nulFree hright hmem

theorem SerializedMembers.nulFree {pairs : List (Bytes × Bytes)} {members : Bytes}
    (h : SerializedMembers pairs members)
    (hpairs : forall pair, pair ∈ pairs -> NulFree pair.1 ∧ NulFree pair.2) :
    NulFree members := by
  have hpair : forall {key value colon : Bytes}, (key, value) ∈ pairs ->
      JsonMark 0x3A colon ->
        NulFree (jsonQuoted (httpJsonEscape key) ++
          (colon ++ jsonQuoted (httpJsonEscape value))) := by
    intro key value colon hmem hcolon
    have hparts := hpairs _ hmem
    rw [nulFree_append, nulFree_append]
    exact ⟨jsonQuoted_nulFree (httpJsonEscape_nulFree hparts.1),
      jsonMark_nulFree (by simp [Byte.nul]) hcolon,
      jsonQuoted_nulFree (httpJsonEscape_nulFree hparts.2)⟩
  induction h with
  | none => exact List.not_mem_nil
  | last hcolon => exact hpair List.mem_cons_self hcolon
  | cons hcolon hcomma hmore ih =>
      rw [nulFree_append, nulFree_append]
      refine ⟨⟨hpair List.mem_cons_self hcolon,
        jsonMark_nulFree (by simp [Byte.nul]) hcomma⟩, ?_⟩
      apply ih
      · exact fun pair hmem => hpairs pair (List.mem_cons_of_mem _ hmem)
      · exact fun hmem => hpair (List.mem_cons_of_mem _ hmem)

theorem SerializedObject.nulFree {pairs : List (Bytes × Bytes)} {text : Bytes}
    (h : SerializedObject pairs text)
    (hpairs : forall pair, pair ∈ pairs -> NulFree pair.1 ∧ NulFree pair.2) :
    NulFree text := by
  cases h with
  | blanks hleft hopening hmembers hclosing hright =>
      simp only [nulFree_append]
      exact ⟨⟨⟨⟨jsonBlank_nulFree hleft, jsonMark_nulFree (by simp [Byte.nul]) hopening⟩,
        hmembers.nulFree hpairs⟩, jsonMark_nulFree (by simp [Byte.nul]) hclosing⟩,
        jsonBlank_nulFree hright⟩

theorem lastField_pairs (pairs : List (Bytes × Bytes)) (name : Bytes) :
    lastField name (pairs.map pairField) =
      (pairs.reverse.find? fun pair => decide (pair.1 = name)).map pairField := by
  unfold lastField
  rw [← List.map_reverse, List.find?_map]
  rfl

/-- The value of the last `sql` pair is read back, or none is found. -/
theorem extractSqlField_serialized {pairs : List (Bytes × Bytes)} {text : Bytes}
    (hpairs : forall pair, pair ∈ pairs -> NulFree pair.1 ∧ NulFree pair.2)
    (h : SerializedObject pairs text) :
    extractSqlField text =
      match pairs.reverse.find? fun pair => decide (pair.1 = ascii "sql") with
      | some pair => .found pair.2
      | none => .missing := by
  have hflat := h.flat
  rw [← cString_eq_self (h.nulFree hpairs)] at hflat
  have hallowed : forall field, field ∈ pairs.map pairField -> Field.Allowed field := by
    intro field hfield
    rcases List.mem_map.mp hfield with ⟨pair, _, rfl⟩
    exact fun _ => ⟨_, _, rfl⟩
  rw [hflat.extracted hallowed, foldl_after, lastField_pairs]
  cases pairs.reverse.find? fun pair => decide (pair.1 = ascii "sql") with
  | none => rfl
  | some pair => rfl

theorem extractSqlField_serialized_sample :
    extractSqlField (ascii "\x7b \"sql\":\"a\\nb\",\"sql\" : \"\\\"\"\x7d") =
      .found (ascii "\"") := by
  have hblank : JsonBlank (ascii " ") := by
    intro b hb
    exact .inl (List.mem_singleton.mp hb)
  have hserialized : SerializedObject
      [(ascii "sql", ascii "a\nb"), (ascii "sql", ascii "\"")]
      (ascii "\x7b \"sql\":\"a\\nb\",\"sql\" : \"\\\"\"\x7d") :=
    .blanks jsonBlank_nil (.blanks jsonBlank_nil hblank)
      (.cons (jsonMark_single _) (jsonMark_single _) (.last (.blanks hblank hblank)))
      (jsonMark_single _) jsonBlank_nil
  exact extractSqlField_serialized (by decide) hserialized

end Api
end SqlCsvServer
