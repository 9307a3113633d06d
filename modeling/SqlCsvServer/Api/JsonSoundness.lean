import SqlCsvServer.Api.FlatObject

/-!
# Whether what is accepted was JSON

A body that is JSON and flat can be read in one way only, so a flat reading with a
flaw rules JSON out.
-/

namespace SqlCsvServer
namespace Api

open Foundation Common Http

/-!
## What the answer says
-/

/-- The answer is right about the body. -/
def AnswerSound (body : Bytes) : SqlField -> Prop
  | .found sql =>
      exists members, JsonText (.object members) body ∧
        (JsonValue.object members).field (ascii "sql") = some (.string sql)
  | .missing =>
      exists members, JsonText (.object members) body ∧
        (JsonValue.object members).field (ascii "sql") = none
  | .invalid => True

inductive FieldValue.Clean : FieldValue -> Prop where
  | quoted {decoded text : Bytes} (hplain : PlainText text) :
      FieldValue.Clean (.quoted decoded text)
  | word {text : Bytes} (hword : text ∈ jsonWords) : FieldValue.Clean (.bare text)
  | number {text : Bytes} (hnumber : JsonNumber text) : FieldValue.Clean (.bare text)

/-- A member as JSON has it. -/
structure Field.Clean (field : Field) : Prop where
  label : PlainText field.label
  value : field.value.Clean

/--
If the C string in the body is a flat object, then it is all of the body, no comma
stands before the closing brace, and the members are as JSON has them.
-/
def CleanBody (body : Bytes) : Prop :=
  forall fields comma, FlatObject fields comma (cString body) ->
    (forall field, field ∈ fields -> Field.Allowed field) ->
      NulFree body ∧ comma = false ∧ forall field, field ∈ fields -> Field.Clean field

/-!
## Strings without control characters
-/

theorem FieldChars.plain_front {front decoded text : Bytes}
    (hfront : forall b, b ∈ front -> b ≠ Byte.doubleQuote ∧ b ≠ Byte.backslash)
    (h : FieldChars decoded (front ++ text)) :
    exists rest, decoded = front ++ rest ∧ FieldChars rest text := by
  induction front generalizing decoded with
  | nil => exact ⟨decoded, rfl, h⟩
  | cons b front ih =>
      have hb := hfront b List.mem_cons_self
      generalize hwhole : b :: front ++ text = whole at h
      cases h with
      | nil => cases hwhole
      | escape => exact absurd (List.cons.inj hwhole).1 hb.2
      | plain hquote hbackslash hrest =>
          rcases List.cons.inj hwhole with ⟨rfl, rfl⟩
          rcases ih (fun other hother => hfront other (List.mem_cons_of_mem _ hother))
            hrest with ⟨rest, rfl, htext⟩
          exact ⟨rest, rfl, htext⟩

theorem utf8EncodeChar_ascii {c : Char} {b : Byte} (hb : b < 0x80)
    (hmem : b ∈ String.utf8EncodeChar c) :
    String.utf8EncodeChar c = [b] ∧ c.toNat = b.toNat := by
  rcases Nat.lt_or_ge 0x7F c.toNat with hbeyond | hascii
  · exact absurd (utf8EncodeChar_beyond hbeyond hmem) (UInt8.not_le.mpr hb)
  · have hsingle : String.utf8EncodeChar c = [UInt8.ofNat c.toNat] := if_pos hascii
    rw [hsingle, List.mem_singleton] at hmem
    rw [hsingle, hmem]
    refine ⟨rfl, ?_⟩
    rw [UInt8.toNat_ofNat', Nat.mod_eq_of_lt]
    omega

theorem utf8Bytes_ascii_head {chars : List Char} {b : Byte} {rest : Bytes}
    (hb : b < 0x80) (h : utf8Bytes chars = b :: rest) :
    exists c more, chars = c :: more ∧ rest = utf8Bytes more := by
  cases chars with
  | nil => cases h
  | cons c more =>
      have hwhole : String.utf8EncodeChar c ++ utf8Bytes more = b :: rest := h
      have hmem : b ∈ String.utf8EncodeChar c := by
        cases hchar : String.utf8EncodeChar c with
        | nil =>
            have hlength := String.length_utf8EncodeChar c
            rw [hchar] at hlength
            exact absurd hlength.symm (Nat.pos_iff_ne_zero.mp c.utf8Size_pos)
        | cons first others =>
            rw [hchar, List.cons_append] at hwhole
            rw [(List.cons.inj hwhole).1]
            exact List.mem_cons_self
      rw [(utf8EncodeChar_ascii hb hmem).1, List.singleton_append] at hwhole
      exact ⟨c, more, rfl, (List.cons.inj hwhole).2.symm⟩

theorem unescapeByte_json {letter b : Byte} (h : unescapeByte letter = some b) :
    (letter, b) ∈ jsonEscapes ∧ letter < 0x80 := by
  have hall : forall letter : Byte,
      (unescapeByte letter).elim true
        (fun b => decide ((letter, b) ∈ jsonEscapes ∧ letter < 0x80)) = true := by
    decide +kernel
  have hletter := hall letter
  rw [h] at hletter
  exact of_decide_eq_true hletter

theorem utf8EncodeChar_no_mark {c : Char} (hquote : c ≠ '"') (hbackslash : c ≠ '\\')
    {b : Byte} (hb : b ∈ String.utf8EncodeChar c) :
    b ≠ Byte.doubleQuote ∧ b ≠ Byte.backslash := by
  constructor
  · rintro rfl
    exact hquote (Char.toNat_inj.mp (utf8EncodeChar_ascii (by decide) hb).2)
  · rintro rfl
    exact hbackslash (Char.toNat_inj.mp (utf8EncodeChar_ascii (by decide) hb).2)

theorem FieldChars.json {decoded text : Bytes} (h : FieldChars decoded text)
    (hplain : PlainText text) : JsonChars decoded text := by
  rcases hplain with ⟨chars, rfl, hchars⟩
  induction hlength : chars.length using Nat.strong_induction_on generalizing chars decoded
    with
  | _ length ih =>
      subst hlength
      cases chars with
      | nil =>
          cases h
          exact .nil
      | cons c chars =>
          have hrest : forall other, other ∈ chars -> 0x20 ≤ other.toNat :=
            fun other hother => hchars other (List.mem_cons_of_mem _ hother)
          by_cases hbackslash : c = '\\'
          · subst hbackslash
            have hwhole : utf8Bytes ('\\' :: chars) = Byte.backslash :: utf8Bytes chars :=
              rfl
            rw [hwhole] at h ⊢
            generalize hbytes : utf8Bytes chars = bytes at h
            cases h with
            | plain hquote hne => exact absurd rfl hne
            | @escape letter b decoded text hescape htext =>
                rcases unescapeByte_json hescape with ⟨hjson, hascii⟩
                rcases utf8Bytes_ascii_head hascii hbytes with ⟨next, more, rfl, rfl⟩
                refine .escape hjson (ih more.length ?_ more ?_ htext rfl)
                · exact Nat.lt_succ_of_lt (Nat.lt_succ_self _)
                · exact fun other hother => hrest other (List.mem_cons_of_mem _ hother)
          · by_cases hquote : c = '"'
            · subst hquote
              cases h with
              | plain hne => exact absurd rfl hne
            · have hwhole : utf8Bytes (c :: chars) =
                  String.utf8EncodeChar c ++ utf8Bytes chars := rfl
              rw [hwhole] at h ⊢
              rcases h.plain_front fun b hb => utf8EncodeChar_no_mark hquote hbackslash hb with
                ⟨rest, rfl, htext⟩
              exact .plain (hchars c List.mem_cons_self) hquote hbackslash
                (ih chars.length (Nat.lt_succ_self _) chars hrest htext rfl)

/-!
## A clean object is JSON
-/

def FieldValue.json : FieldValue -> JsonValue
  | .quoted decoded _ => .string decoded
  | .bare text =>
      if text = ascii "null" then .null
      else if text = ascii "true" then .bool true
      else if text = ascii "false" then .bool false
      else .number text

def Field.member (field : Field) : Bytes × JsonValue :=
  (field.name, field.value.json)

theorem FieldValue.Written.json {value : FieldValue} {text : Bytes}
    (h : value.Written text) (hclean : value.Clean) : JsonWritten value.json text := by
  cases h with
  | quoted hchars =>
      cases hclean with
      | quoted hplain => exact .string (hchars.json hplain)
  | @bare text hbare =>
      unfold FieldValue.json
      simp only
      split
      · next hnull =>
          rw [hnull]
          exact .null
      · next hnull =>
          split
          · next htrue =>
              rw [htrue]
              exact .true
          · next htrue =>
              split
              · next hfalse =>
                  rw [hfalse]
                  exact .false
              · next hfalse =>
                  cases hclean with
                  | number hnumber => exact .number hnumber
                  | word hword =>
                      simp [jsonWords, hnull, htrue, hfalse] at hword

theorem ObjectRest.json {fields : List Field} {rest : Bytes}
    (h : ObjectRest fields false rest)
    (hclean : forall field, field ∈ fields -> Field.Clean field) :
    exists behind text closing right,
      rest = behind ++ (text ++ (closing ++ right)) ∧ JsonBlank behind ∧
        JsonMembers (fields.map Field.member) text ∧ JsonMark 0x7D closing ∧
          JsonBlank right := by
  generalize hcomma : false = comma at h
  induction h with
  | @close left right hleft hright =>
      exact ⟨[], [], left ++ [0x7D], right, by simp, jsonBlank_nil, .none,
        .blanks hleft jsonBlank_nil, hright⟩
  | @last field left part rest hleft hfield hrest ih =>
      rcases hrest.close_cases with ⟨blank, right, hblank, hright, rfl⟩
      have hfieldClean := hclean field List.mem_cons_self
      cases hfield with
      | @parts colon text hname hcolon hvalue =>
          refine ⟨left, jsonQuoted field.label ++ colon ++ text, blank ++ [0x7D], right,
            ?_, hleft, ?_, .blanks hblank jsonBlank_nil, hright⟩
          · simp only [List.append_assoc, List.cons_append, List.nil_append]
          · exact .last (hname.json hfieldClean.label) hcolon
              (hvalue.json hfieldClean.value)
  | trailing => cases hcomma
  | @more field next fields comma left part blank rest hleft hfield hblank hrest ih =>
      rcases ih (fun other hother => hclean other (List.mem_cons_of_mem _ hother)) hcomma
        with ⟨behind, text, closing, right, rfl, hbehind, hmembers, hclosing, hright⟩
      have hfieldClean := hclean field List.mem_cons_self
      cases hfield with
      | @parts colon valueText hname hcolon hvalue =>
          refine ⟨left, jsonQuoted field.label ++ colon ++ valueText ++
            (blank ++ Byte.comma :: behind) ++ text, closing, right, ?_, hleft, ?_,
            hclosing, hright⟩
          · simp only [List.append_assoc, List.cons_append]
          · exact .cons (hname.json hfieldClean.label) hcolon
              (hvalue.json hfieldClean.value) (.blanks hblank hbehind) hmembers

theorem FlatObject.json {fields : List Field} {text : Bytes}
    (h : FlatObject fields false text)
    (hclean : forall field, field ∈ fields -> Field.Clean field) :
    JsonText (.object (fields.map Field.member)) text := by
  cases h with
  | @blanks left rest hleft hrest =>
      rcases hrest.json hclean with
        ⟨behind, members, closing, right, rfl, hbehind, hmembers, hclosing, hright⟩
      have hopening : JsonMark 0x7B (0x7B :: behind) :=
        @JsonMark.blanks 0x7B [] behind jsonBlank_nil hbehind
      have htext := JsonText.blanks hleft (.object hopening hmembers hclosing) hright
      simpa only [List.append_assoc, List.cons_append] using htext

theorem field_members (name : Bytes) (fields : List Field) :
    (JsonValue.object (fields.map Field.member)).field name =
      (lastField name fields).map fun field => field.value.json := by
  simp only [JsonValue.field, lastField]
  rw [← List.map_reverse, List.find?_map, Option.map_map]
  rfl

theorem FlatObject.answerSound {fields : List Field} {body : Bytes}
    (h : FlatObject fields false (cString body)) (hnul : NulFree body)
    (hallowed : forall field, field ∈ fields -> Field.Allowed field)
    (hclean : forall field, field ∈ fields -> Field.Clean field) :
    AnswerSound body (extractSqlField body) := by
  rw [h.extracted hallowed, foldl_after]
  rw [cString_eq_self hnul] at h
  have hjson := h.json hclean
  have hfield := field_members (ascii "sql") fields
  cases hlast : lastField (ascii "sql") fields with
  | none =>
      rw [hlast] at hfield
      exact ⟨_, hjson, hfield⟩
  | some field =>
      have hmem : field ∈ fields := List.mem_reverse.mp (List.mem_of_find?_eq_some hlast)
      have hname : field.name = ascii "sql" := by
        have hfound := List.find?_some hlast
        exact of_decide_eq_true hfound
      rcases hallowed field hmem hname with ⟨decoded, text, hvalue⟩
      rw [hlast, Option.map_some, hvalue] at hfield
      rw [Option.elim_some, hvalue]
      exact ⟨_, hjson, hfield⟩

/-!
## Two readings of one text
-/

theorem append_unique {p : Byte -> Bool} {left right tail rest : Bytes}
    (hleft : forall b, b ∈ left -> p b = true) (hright : forall b, b ∈ right -> p b = true)
    (htail : forall b more, tail = b :: more -> p b = false)
    (hrest : forall b more, rest = b :: more -> p b = false)
    (h : left ++ tail = right ++ rest) : left = right ∧ tail = rest := by
  induction left generalizing right with
  | nil =>
      cases right with
      | nil => exact ⟨rfl, h⟩
      | cons b right =>
          have hb := hright b List.mem_cons_self
          rw [htail b _ h] at hb
          cases hb
  | cons b left ih =>
      cases right with
      | nil =>
          have hb := hleft b List.mem_cons_self
          rw [hrest b _ h.symm] at hb
          cases hb
      | cons other right =>
          rcases List.cons.inj h with ⟨rfl, hmore⟩
          rcases ih (fun c hc => hleft c (List.mem_cons_of_mem _ hc))
            (fun c hc => hright c (List.mem_cons_of_mem _ hc)) hmore with ⟨rfl, hsame⟩
          exact ⟨rfl, hsame⟩

inductive QuotesEscaped : Bytes -> Prop where
  | nil : QuotesEscaped []
  | plain {b : Byte} {text : Bytes} (hquote : b ≠ Byte.doubleQuote)
      (hbackslash : b ≠ Byte.backslash) (hrest : QuotesEscaped text) :
      QuotesEscaped (b :: text)
  | escape {b : Byte} {text : Bytes} (hrest : QuotesEscaped text) :
      QuotesEscaped (Byte.backslash :: b :: text)

theorem QuotesEscaped.append_plain {front text : Bytes}
    (hfront : forall b, b ∈ front -> b ≠ Byte.doubleQuote ∧ b ≠ Byte.backslash)
    (h : QuotesEscaped text) : QuotesEscaped (front ++ text) := by
  induction front with
  | nil => exact h
  | cons b front ih =>
      have hb := hfront b List.mem_cons_self
      exact .plain hb.1 hb.2 (ih fun other hother =>
        hfront other (List.mem_cons_of_mem _ hother))

theorem FieldChars.quotesEscaped {decoded text : Bytes} (h : FieldChars decoded text) :
    QuotesEscaped text := by
  induction h with
  | nil => exact .nil
  | plain hquote hbackslash hrest ih => exact .plain hquote hbackslash ih
  | escape hescape hrest ih => exact .escape ih

theorem JsonChars.quotesEscaped {decoded text : Bytes} (h : JsonChars decoded text) :
    QuotesEscaped text := by
  have hdigit : forall b : Byte, (hexDigitValue b).isSome = true ->
      b ≠ Byte.doubleQuote ∧ b ≠ Byte.backslash := by
    decide +kernel
  have hunicode : forall {digits rest : Bytes} {n : Nat}, hexUnit digits = some n ->
      QuotesEscaped rest ->
        QuotesEscaped (Byte.backslash :: 0x75 :: (digits ++ rest)) := by
    intro digits rest n hunit hrest
    exact .escape (hrest.append_plain fun b hb => hdigit b (hexUnit_digits hunit b hb))
  induction h with
  | nil => exact .nil
  | plain hcontrol hquote hbackslash hrest ih =>
      exact ih.append_plain fun b hb => utf8EncodeChar_no_mark hquote hbackslash hb
  | escape hescape hrest ih => exact .escape ih
  | unicode hunit hrest ih => exact hunicode hunit ih
  | surrogates hfirst hhigh hsecond hlow hchar hrest ih =>
      exact hunicode hfirst (hunicode hsecond ih)
  | lone hunit hsurrogate hrest ih => exact hunicode hunit ih

theorem QuotesEscaped.unique {left right tail rest : Bytes} (hleft : QuotesEscaped left)
    (hright : QuotesEscaped right)
    (h : jsonQuoted left ++ tail = jsonQuoted right ++ rest) :
    left = right ∧ tail = rest := by
  rw [jsonQuoted_append, jsonQuoted_append] at h
  have hinner := (List.cons.inj h).2
  clear h
  induction hleft generalizing right with
  | nil =>
      cases hright with
      | nil => exact ⟨rfl, (List.cons.inj hinner).2⟩
      | plain hquote => exact absurd (List.cons.inj hinner).1.symm hquote
      | escape => cases (List.cons.inj hinner).1
  | plain hquote hbackslash hrest ih =>
      cases hright with
      | nil => exact absurd (List.cons.inj hinner).1 hquote
      | escape => exact absurd (List.cons.inj hinner).1 hbackslash
      | plain _ _ hother =>
          rcases List.cons.inj hinner with ⟨rfl, hmore⟩
          rcases ih hother hmore with ⟨rfl, hsame⟩
          exact ⟨rfl, hsame⟩
  | escape hrest ih =>
      cases hright with
      | nil => cases (List.cons.inj hinner).1
      | plain _ hbackslash => exact absurd (List.cons.inj hinner).1.symm hbackslash
      | escape hother =>
          rcases List.cons.inj (List.cons.inj hinner).2 with ⟨rfl, hmore⟩
          rcases ih hother hmore with ⟨rfl, hsame⟩
          exact ⟨rfl, hsame⟩

def isBareByte (b : Byte) : Bool :=
  isNumberByte b || (0x61 ≤ b && b ≤ 0x7A) || b == 0x2E || b == 0x45

theorem isBareByte_of_number {b : Byte} (h : isNumberByte b = true) :
    isBareByte b = true := by
  unfold isBareByte
  rw [h, Bool.true_or, Bool.true_or, Bool.true_or]

theorem isBareByte_of_digit {b : Byte} (h : isDigit b = true) : isBareByte b = true := by
  apply isBareByte_of_number
  unfold isNumberByte
  rw [h, Bool.true_or, Bool.true_or]

structure BareText (text : Bytes) : Prop where
  ne : text ≠ []
  bytes : forall b, b ∈ text -> isBareByte b = true

theorem jsonWord_bareText {text : Bytes} (h : text ∈ jsonWords) : BareText text := by
  have hwords : jsonWords.all (fun word => word != [] && word.all isBareByte) = true := by
    decide
  have hword := List.all_eq_true.mp hwords text h
  rw [Bool.and_eq_true, bne_iff_ne, List.all_eq_true] at hword
  exact ⟨hword.1, hword.2⟩

theorem IsBare.bareText {text : Bytes} (h : IsBare text) : BareText text := by
  cases h with
  | word hword => exact jsonWord_bareText hword
  | digits hne hdigits => exact ⟨hne, fun b hb => isBareByte_of_number (hdigits b hb)⟩

theorem jsonNumber_bareText {text : Bytes} (h : JsonNumber text) : BareText text := by
  have hmarks : numberMarks.all isBareByte = true := by decide
  refine ⟨h.ne_nil, fun b hb => ?_⟩
  rcases h.bytes hb with hdigit | hmark
  · exact isBareByte_of_digit hdigit
  · exact List.all_eq_true.mp hmarks b hmark

def EndsJson (rest : Bytes) : Prop :=
  forall b more, rest = b :: more -> isBareByte b = false

theorem endsJson_blank {blank : Bytes} (h : JsonBlank blank) {b : Byte}
    (hb : isBareByte b = false) (rest : Bytes) : EndsJson (blank ++ b :: rest) := by
  have hblank : forall first : Byte, isJsonBlank first = true ->
      isBareByte first = false := by
    decide +kernel
  intro first more htext
  rcases blank_head h htext with rfl | hfirst
  · exact hb
  · exact hblank first hfirst

theorem endsJson_mark {b : Byte} {mark : Bytes} (h : JsonMark b mark)
    (hb : isBareByte b = false) (rest : Bytes) : EndsJson (mark ++ rest) := by
  cases h with
  | blanks hleft hright =>
      rw [List.append_assoc, List.cons_append]
      exact endsJson_blank hleft hb _

theorem skipWs_bareText {text : Bytes} (h : BareText text) (rest : Bytes) :
    exists b more, isBareByte b = true ∧ text ++ rest = b :: more ∧
      skipWs (text ++ rest) = text ++ rest := by
  have hblank : forall b : Byte, isBareByte b = true -> isJsonBlank b = false := by
    decide +kernel
  cases text with
  | nil => exact absurd rfl h.ne
  | cons b more =>
      have hb := h.bytes b List.mem_cons_self
      exact ⟨b, more ++ rest, hb, rfl, skipWs_cons (hblank b hb) _⟩

theorem skipWs_jsonQuoted (label rest : Bytes) :
    skipWs (jsonQuoted label ++ rest) = jsonQuoted label ++ rest := by
  rw [jsonQuoted_append]
  exact skipWs_cons rfl _

inductive JsonShape (text : Bytes) : Prop where
  | word (hword : text ∈ jsonWords)
  | number (hnumber : JsonNumber text)
  | string {decoded label : Bytes} (hchars : JsonChars decoded label)
      (htext : text = jsonQuoted label)
  | bracket {b : Byte} {mark rest : Bytes} (hmark : JsonMark b mark)
      (hb : b = 0x5B ∨ b = 0x7B) (htext : text = mark ++ rest)

theorem jsonShape {value : JsonValue} {text : Bytes}
    (h : JsonWritten value text) : JsonShape text := by
  cases h with
  | null => exact .word (by decide)
  | false => exact .word (by decide)
  | true => exact .word (by decide)
  | number hnumber => exact .number hnumber
  | string hchars => exact .string hchars rfl
  | array hleft hitems hright =>
      exact .bracket hleft (.inl rfl) (List.append_assoc _ _ _)
  | object hleft hmembers hright =>
      exact .bracket hleft (.inr rfl) (List.append_assoc _ _ _)

theorem skipWs_jsonMark {b : Byte} {mark : Bytes} (h : JsonMark b mark)
    (hb : isJsonBlank b = false) (rest : Bytes) :
    exists behind, JsonBlank behind ∧ skipWs (mark ++ rest) = b :: (behind ++ rest) := by
  cases h with
  | @blanks left right hleft hright =>
      refine ⟨right, hright, ?_⟩
      rw [List.append_assoc, skipWs_append hleft, List.cons_append, skipWs_cons hb]

theorem value_clean {value : FieldValue} {text part tail rest : Bytes}
    (hvalue : value.Written text) (hshape : JsonShape part) (htail : EndsJson tail)
    (hrest : EndsJson rest) (h : text ++ tail = skipWs (part ++ rest)) :
    value.Clean ∧ tail = rest := by
  have hbare : forall {text part : Bytes}, BareText text -> BareText part ->
      text ++ tail = skipWs (part ++ rest) -> text = part ∧ tail = rest := by
    intro text part hleft hright h
    rcases skipWs_bareText hright rest with ⟨_, _, _, _, hskip⟩
    rw [hskip] at h
    exact append_unique hleft.bytes hright.bytes htail hrest h
  have hquote : forall {label other : Bytes}, BareText other ->
      jsonQuoted label ++ tail ≠ skipWs (other ++ rest) := by
    intro label other hother h
    rcases skipWs_bareText hother rest with ⟨b, more, hb, htext, hskip⟩
    rw [hskip, htext, jsonQuoted_append] at h
    rw [← (List.cons.inj h).1] at hb
    cases hb
  have hbracket : forall {b : Byte} {mark more : Bytes}, JsonMark b mark ->
      b = 0x5B ∨ b = 0x7B -> exists behind,
        skipWs (mark ++ more ++ rest) = b :: behind := by
    intro b mark more hmark hb
    have hblank : isJsonBlank b = false := by
      rcases hb with rfl | rfl <;> rfl
    rcases skipWs_jsonMark hmark hblank (more ++ rest) with ⟨behind, _, hskip⟩
    rw [List.append_assoc]
    exact ⟨_, hskip⟩
  cases hvalue with
  | @quoted decoded label hchars =>
      cases hshape with
      | word hword => exact absurd h (hquote (jsonWord_bareText hword))
      | number hnumber => exact absurd h (hquote (jsonNumber_bareText hnumber))
      | string hjson hpart =>
          rw [hpart, skipWs_jsonQuoted] at h
          rcases hchars.quotesEscaped.unique (JsonChars.quotesEscaped hjson) h with
            ⟨hlabel, hsame⟩
          refine ⟨.quoted ?_, hsame⟩
          rw [hlabel]
          exact hjson.plainText
      | bracket hmark hb hpart =>
          rcases hbracket hmark hb with ⟨behind, hskip⟩
          rw [hpart, hskip, jsonQuoted_append] at h
          rcases hb with rfl | rfl <;> cases (List.cons.inj h).1
  | @bare text hbareText =>
      cases hshape with
      | word hword =>
          rcases hbare hbareText.bareText (jsonWord_bareText hword) h with ⟨rfl, hsame⟩
          exact ⟨.word hword, hsame⟩
      | number hnumber =>
          rcases hbare hbareText.bareText (jsonNumber_bareText hnumber) h with ⟨rfl, hsame⟩
          exact ⟨.number hnumber, hsame⟩
      | string hjson hpart =>
          rw [hpart, skipWs_jsonQuoted, jsonQuoted_append] at h
          rcases skipWs_bareText hbareText.bareText tail with ⟨b, more, hb, htext, _⟩
          rw [htext] at h
          rw [(List.cons.inj h).1] at hb
          cases hb
      | bracket hmark hb hpart =>
          rcases hbracket hmark hb with ⟨behind, hskip⟩
          rcases skipWs_bareText hbareText.bareText tail with ⟨first, more, hfirst, htext, _⟩
          rw [hpart, hskip, htext] at h
          rw [(List.cons.inj h).1] at hfirst
          rcases hb with rfl | rfl <;> cases hfirst

theorem field_clean {field : Field} {part tail name label colon text rest : Bytes}
    {value : JsonValue} (hfield : field.Written part) (hname : JsonChars name label)
    (hcolon : JsonMark 0x3A colon) (hvalue : JsonWritten value text)
    (htail : EndsJson tail) (hrest : EndsJson rest)
    (h : skipWs (part ++ tail) =
      skipWs (jsonQuoted label ++ colon ++ text ++ rest)) :
    field.Clean ∧ tail = rest := by
  cases hfield with
  | @parts mark valueText hchars hmark hwritten =>
      have hmarkByte : isJsonBlank 0x3A = false := rfl
      simp only [List.append_assoc, skipWs_jsonQuoted] at h
      rcases hchars.quotesEscaped.unique (JsonChars.quotesEscaped hname) h with
        ⟨hlabel, hbehind⟩
      rcases skipWs_jsonMark hmark hmarkByte (valueText ++ tail) with
        ⟨before, hbefore, hleft⟩
      rcases skipWs_jsonMark hcolon hmarkByte (text ++ rest) with
        ⟨after, hafter, hright⟩
      rw [hbehind, hright] at hleft
      have hvalues := congrArg skipWs (List.cons.inj hleft).2.symm
      rw [skipWs_append hbefore, skipWs_append hafter, skipWs_written hwritten] at hvalues
      rcases value_clean hwritten (jsonShape hvalue) htail hrest hvalues with ⟨hclean, hsame⟩
      refine ⟨⟨?_, hclean⟩, hsame⟩
      rw [hlabel]
      exact hname.plainText

inductive FirstMember (text : Bytes) : Prop where
  | none (htext : text = [])
  | last {name label colon part : Bytes} {value : JsonValue}
      (hname : JsonChars name label) (hcolon : JsonMark 0x3A colon)
      (hvalue : JsonWritten value part)
      (htext : text = jsonQuoted label ++ colon ++ part)
  | more {name label colon part comma rest : Bytes} {value : JsonValue}
      {next : Bytes × JsonValue} {others : List (Bytes × JsonValue)}
      (hname : JsonChars name label) (hcolon : JsonMark 0x3A colon)
      (hvalue : JsonWritten value part) (hcomma : JsonMark 0x2C comma)
      (hmore : JsonMembers (next :: others) rest)
      (htext : text = jsonQuoted label ++ colon ++ part ++ (comma ++ rest))

theorem firstMember {members : List (Bytes × JsonValue)} {text : Bytes}
    (h : JsonMembers members text) : FirstMember text := by
  cases h with
  | none => exact .none rfl
  | last hname hcolon hvalue => exact .last hname hcolon hvalue rfl
  | cons hname hcolon hvalue hcomma hmore =>
      exact .more hname hcolon hvalue hcomma hmore (List.append_assoc _ _ _)

theorem fieldWritten_head {field : Field} {part : Bytes} (h : field.Written part)
    (tail : Bytes) : exists more, skipWs (part ++ tail) = Byte.doubleQuote :: more := by
  cases h with
  | parts hname hcolon hvalue =>
      rw [List.append_assoc, skipWs_jsonQuoted, jsonQuoted_append]
      exact ⟨_, rfl⟩

theorem jsonMembers_head {next : Bytes × JsonValue} {others : List (Bytes × JsonValue)}
    {text : Bytes} (h : JsonMembers (next :: others) text) (tail : Bytes) :
    exists more, skipWs (text ++ tail) = Byte.doubleQuote :: more := by
  cases h with
  | last hname hcolon hvalue =>
      simp only [List.append_assoc, jsonQuoted_append]
      exact ⟨_, skipWs_cons rfl _⟩
  | cons hname hcolon hvalue hcomma hmore =>
      simp only [List.append_assoc, jsonQuoted_append]
      exact ⟨_, skipWs_cons rfl _⟩

/--
A member that stands where JSON has its members is clean; behind it stands the brace
of JSON, or a comma and more members.
-/
theorem field_step {field : Field} {left part tail behind text closing right : Bytes}
    (hleft : JsonBlank left) (hfield : field.Written part) (htail : EndsJson tail)
    {members : List (Bytes × JsonValue)} (hmembers : JsonMembers members text)
    (hbehind : JsonBlank behind) (hclosing : JsonMark 0x7D closing)
    (h : left ++ (part ++ tail) = behind ++ (text ++ (closing ++ right))) :
    field.Clean ∧
      (tail = closing ++ right ∨
        exists comma rest next others, tail = comma ++ (rest ++ (closing ++ right)) ∧
          JsonMark 0x2C comma ∧ JsonMembers (next :: others) rest) := by
  have hskip := congrArg skipWs h
  rw [skipWs_append hleft, skipWs_append hbehind] at hskip
  have hbrace := endsJson_mark hclosing rfl right
  cases firstMember hmembers with
  | none htext =>
      rcases fieldWritten_head hfield tail with ⟨more, hhead⟩
      rcases skipWs_jsonMark hclosing rfl right with ⟨after, _, hclose⟩
      rw [htext, List.nil_append, hhead, hclose] at hskip
      cases (List.cons.inj hskip).1
  | last hname hcolon hvalue htext =>
      rw [htext] at hskip
      rcases field_clean hfield hname hcolon hvalue htail hbrace hskip with
        ⟨hclean, hsame⟩
      exact ⟨hclean, .inl hsame⟩
  | @more name label colon value comma rest _ next others hname hcolon hvalue hcomma
      hmore htext =>
      have hcommaEnds := endsJson_mark hcomma rfl (rest ++ (closing ++ right))
      rw [htext, List.append_assoc _ (comma ++ rest), List.append_assoc comma] at hskip
      rcases field_clean hfield hname hcolon hvalue htail hcommaEnds hskip with
        ⟨hclean, hsame⟩
      exact ⟨hclean, .inr ⟨comma, rest, next, others, hsame, hcomma, hmore⟩⟩

theorem comma_step {blank rest closing right : Bytes} (hblank : JsonBlank blank)
    (hclosing : JsonMark 0x7D closing)
    (h : blank ++ Byte.comma :: rest = closing ++ right ∨
      exists comma text next others,
        blank ++ Byte.comma :: rest = comma ++ (text ++ (closing ++ right)) ∧
          JsonMark 0x2C comma ∧ JsonMembers (next :: others) text) :
    exists behind text next others, rest = behind ++ (text ++ (closing ++ right)) ∧
      JsonBlank behind ∧ JsonMembers (next :: others) text := by
  rcases h with h | ⟨comma, text, next, others, h, hcomma, hmembers⟩
  · have hskip := congrArg skipWs h
    rcases skipWs_jsonMark hclosing rfl right with ⟨after, _, hclose⟩
    rw [skipWs_mark hblank (by simp), hclose] at hskip
    cases (List.cons.inj hskip).1
  · have hskip := congrArg skipWs h
    rcases skipWs_jsonMark hcomma rfl (text ++ (closing ++ right)) with
      ⟨behind, hbehind, hmark⟩
    rw [skipWs_mark hblank (by simp), hmark] at hskip
    exact ⟨behind, text, next, others, (List.cons.inj hskip).2, hbehind, hmembers⟩

theorem ObjectRest.clean {fields : List Field} {comma : Bool} {whole : Bytes}
    (h : ObjectRest fields comma whole) {members : List (Bytes × JsonValue)}
    {behind text closing right : Bytes} (hmembers : JsonMembers members text)
    (hbehind : JsonBlank behind) (hclosing : JsonMark 0x7D closing)
    (hwhole : whole = behind ++ (text ++ (closing ++ right))) :
    comma = false ∧ forall field, field ∈ fields -> Field.Clean field := by
  induction h generalizing members behind text with
  | close hleft hright => exact ⟨rfl, nofun⟩
  | @last field left part rest hleft hfield hrest ih =>
      rcases hrest.close_cases with ⟨blank, after, hblank, hafter, rfl⟩
      have hstep := field_step hleft hfield (endsJson_blank hblank rfl after) hmembers
        hbehind hclosing hwhole
      refine ⟨rfl, fun other hother => ?_⟩
      rw [List.mem_singleton.mp hother]
      exact hstep.1
  | @trailing field left part blank rest hleft hfield hblank hrest ih =>
      rcases hrest.close_cases with ⟨before, after, hbefore, hafter, rfl⟩
      have hstep := field_step hleft hfield (endsJson_blank hblank rfl _) hmembers hbehind
        hclosing hwhole
      rcases comma_step hblank hclosing hstep.2 with
        ⟨behind, text, next, others, hrestText, hbehind, hmore⟩
      have hskip := congrArg skipWs hrestText
      rcases jsonMembers_head hmore (closing ++ right) with ⟨more, hhead⟩
      rw [skipWs_mark hbefore (by simp), skipWs_append hbehind, hhead] at hskip
      cases (List.cons.inj hskip).1
  | @more field next fields comma left part blank rest hleft hfield hblank hrest ih =>
      have hstep := field_step hleft hfield (endsJson_blank hblank rfl _) hmembers hbehind
        hclosing hwhole
      rcases comma_step hblank hclosing hstep.2 with
        ⟨behind, text, next, others, hrestText, hbehind, hmore⟩
      rcases ih hmore hbehind hrestText with ⟨hcomma, hclean⟩
      refine ⟨hcomma, fun other hother => ?_⟩
      rcases List.mem_cons.mp hother with rfl | hother
      · exact hstep.1
      · exact hclean other hother

theorem FlatObject.clean {fields : List Field} {comma : Bool} {body : Bytes}
    {members : List (Bytes × JsonValue)} (h : FlatObject fields comma (cString body))
    (hjson : JsonText (.object members) body) :
    NulFree body ∧ comma = false ∧ forall field, field ∈ fields -> Field.Clean field := by
  have hnul : NulFree body := by
    intro hmem
    exact absurd (hjson.jsonBytes Byte.nul hmem) (by decide)
  rw [cString_eq_self hnul] at h
  refine ⟨hnul, ?_⟩
  cases hjson with
  | @blanks before text after hbefore hvalue hafter =>
      cases hvalue with
      | @object _ opening inner closing hopening hmembers hclosing =>
          generalize hwhole : before ++ (opening ++ inner ++ closing) ++ after = whole at h
          cases h with
          | @blanks left rest hleft hrest =>
              have hskip := congrArg skipWs hwhole
              rcases skipWs_jsonMark hopening rfl (inner ++ (closing ++ after)) with
                ⟨behind, hbehind, hmark⟩
              simp only [List.append_assoc] at hskip
              rw [skipWs_append hbefore, hmark, skipWs_mark hleft (by simp)] at hskip
              exact hrest.clean hmembers hbehind hclosing (List.cons.inj hskip).2.symm

theorem extractSqlField_answerSound_iff (body : Bytes) :
    AnswerSound body (extractSqlField body) <-> CleanBody body := by
  constructor
  · intro hsound fields comma hflat hallowed
    rw [hflat.extracted hallowed] at hsound
    cases hanswer : fields.foldl Field.after none with
    | none =>
        rw [hanswer] at hsound
        rcases hsound with ⟨members, hjson, _⟩
        exact hflat.clean hjson
    | some sql =>
        rw [hanswer] at hsound
        rcases hsound with ⟨members, hjson, _⟩
        exact hflat.clean hjson
  · intro hclean
    by_cases hinvalid : extractSqlField body = .invalid
    · rw [hinvalid]
      trivial
    · rcases extractSqlField_reads hinvalid with ⟨fields, comma, hflat, hallowed⟩
      rcases hclean fields comma hflat hallowed with ⟨hnul, rfl, hfields⟩
      exact hflat.answerSound hnul hallowed hfields

/-- A comma in front of the closing brace is accepted. -/
theorem extractSqlField_accepts_comma :
    extractSqlField (ascii "\x7b\"sql\":\"x\",\x7d") = .found (ascii "x") ∧
      ¬ AnswerSound (ascii "\x7b\"sql\":\"x\",\x7d")
        (extractSqlField (ascii "\x7b\"sql\":\"x\",\x7d")) := by
  have hfound : extractSqlField (ascii "\x7b\"sql\":\"x\",\x7d") =
      .found (ascii "x") := by
    decide
  refine ⟨hfound, ?_⟩
  rw [hfound]
  rintro ⟨members, hjson, _⟩
  have hname : FieldChars (ascii "sql") (ascii "sql") :=
    .plain (by decide) (by decide) (.plain (by decide) (by decide)
      (.plain (by decide) (by decide) .nil))
  have hvalue : FieldChars (ascii "x") (ascii "x") :=
    .plain (by decide) (by decide) .nil
  have hfield : Field.Written
      { name := ascii "sql"
        label := ascii "sql"
        value := .quoted (ascii "x") (ascii "x") }
      (jsonQuoted (ascii "sql") ++ ([0x3A] ++ jsonQuoted (ascii "x"))) :=
    .parts hname (jsonMark_single _) (.quoted hvalue)
  have hflat := FlatObject.blanks jsonBlank_nil (.trailing jsonBlank_nil hfield
    jsonBlank_nil (.close jsonBlank_nil jsonBlank_nil))
  have htext : cString (ascii "\x7b\"sql\":\"x\",\x7d") =
      [] ++ 0x7B :: ([] ++ (jsonQuoted (ascii "sql") ++
        ([0x3A] ++ jsonQuoted (ascii "x")) ++
          ([] ++ Byte.comma :: ([] ++ 0x7D :: [])))) := by
    decide
  rw [← htext] at hflat
  cases (hflat.clean hjson).2.1

end Api
end SqlCsvServer
