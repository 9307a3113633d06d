import SqlCsvServer.Api.QueryHandler
import SqlCsvServer.Foundation.Json

/-!
# The objects `extract_sql_field` reads

They are flat, and looser than JSON: a comma may stand before the closing brace, a
string holds any bytes, and any run of digits and signs is a value.
-/

namespace SqlCsvServer
namespace Api

open Foundation Common Http

/-!
## The grammar
-/

inductive FieldChars : Bytes -> Bytes -> Prop where
  | nil : FieldChars [] []
  | plain {b : Byte} {decoded text : Bytes} (hquote : b ≠ Byte.doubleQuote)
      (hbackslash : b ≠ Byte.backslash) (hrest : FieldChars decoded text) :
      FieldChars (b :: decoded) (b :: text)
  | escape {letter b : Byte} {decoded text : Bytes}
      (hescape : unescapeByte letter = some b) (hrest : FieldChars decoded text) :
      FieldChars (b :: decoded) (Byte.backslash :: letter :: text)

def jsonWords : List Bytes :=
  [ascii "null", ascii "true", ascii "false"]

inductive IsBare (text : Bytes) : Prop where
  | word (hword : text ∈ jsonWords)
  | digits (hne : text ≠ []) (hdigits : forall b, b ∈ text -> isNumberByte b = true)

inductive FieldValue where
  | quoted (decoded text : Bytes)
  | bare (text : Bytes)

inductive FieldValue.Written : FieldValue -> Bytes -> Prop where
  | quoted {decoded text : Bytes} (hchars : FieldChars decoded text) :
      FieldValue.Written (.quoted decoded text) (jsonQuoted text)
  | bare {text : Bytes} (hbare : IsBare text) : FieldValue.Written (.bare text) text

structure Field where
  name : Bytes
  label : Bytes
  value : FieldValue

inductive Field.Written (field : Field) : Bytes -> Prop where
  | parts {colon text : Bytes} (hname : FieldChars field.name field.label)
      (hcolon : JsonMark 0x3A colon) (hvalue : field.value.Written text) :
      Field.Written field (jsonQuoted field.label ++ (colon ++ text))

def Field.Allowed (field : Field) : Prop :=
  field.name = ascii "sql" -> exists decoded text, field.value = .quoted decoded text

inductive ObjectRest : List Field -> Bool -> Bytes -> Prop where
  | close {left right : Bytes} (hleft : JsonBlank left) (hright : JsonBlank right) :
      ObjectRest [] false (left ++ 0x7D :: right)
  | last {field : Field} {left text rest : Bytes} (hleft : JsonBlank left)
      (hfield : field.Written text) (hrest : ObjectRest [] false rest) :
      ObjectRest [field] false (left ++ (text ++ rest))
  | trailing {field : Field} {left text blank rest : Bytes} (hleft : JsonBlank left)
      (hfield : field.Written text) (hblank : JsonBlank blank)
      (hrest : ObjectRest [] false rest) :
      ObjectRest [field] true (left ++ (text ++ (blank ++ Byte.comma :: rest)))
  | more {field next : Field} {fields : List Field} {comma : Bool}
      {left text blank rest : Bytes} (hleft : JsonBlank left)
      (hfield : field.Written text) (hblank : JsonBlank blank)
      (hrest : ObjectRest (next :: fields) comma rest) :
      ObjectRest (field :: next :: fields) comma
        (left ++ (text ++ (blank ++ Byte.comma :: rest)))

/-- A flat object. -/
inductive FlatObject (fields : List Field) (comma : Bool) : Bytes -> Prop where
  | blanks {left rest : Bytes} (hleft : JsonBlank left)
      (hrest : ObjectRest fields comma rest) :
      FlatObject fields comma (left ++ 0x7B :: rest)

/-- The string a value stands for. -/
def FieldValue.string : FieldValue -> Option Bytes
  | .quoted decoded _ => some decoded
  | .bare _ => none

/-- What a member makes of `sql_out`. -/
def Field.after (found : Option Bytes) (field : Field) : Option Bytes :=
  if field.name = ascii "sql" then field.value.string else found

/-- The answer for what is left in `sql_out`. -/
def sqlAnswer : Option Bytes -> SqlField
  | none => .missing
  | some sql => .found sql

/-!
## Blanks
-/

theorem isJsonBlank_iff (b : Byte) :
    isJsonBlank b = true <->
      b = Byte.space ∨ b = Byte.tab ∨ b = Byte.lineFeed ∨ b = Byte.carriageReturn := by
  unfold isJsonBlank
  simp only [Bool.or_eq_true, beq_iff_eq, or_assoc]
  constructor
  · rintro (h | h | h | h)
    · exact .inl h
    · exact .inr (.inl h)
    · exact .inr (.inr (.inr h))
    · exact .inr (.inr (.inl h))
  · rintro (h | h | h | h)
    · exact .inl h
    · exact .inr (.inl h)
    · exact .inr (.inr (.inr h))
    · exact .inr (.inr (.inl h))

theorem skipWs_append {blank : Bytes} (h : JsonBlank blank) (text : Bytes) :
    skipWs (blank ++ text) = skipWs text := by
  unfold skipWs
  apply List.dropWhile_append_of_pos
  exact fun b hb => (isJsonBlank_iff b).mpr (h b hb)

theorem skipWs_cons {b : Byte} (h : isJsonBlank b = false) (text : Bytes) :
    skipWs (b :: text) = b :: text := by
  unfold skipWs
  rw [List.dropWhile_cons, if_neg (by rw [h]; exact nofun)]

theorem skipWs_blank {blank : Bytes} (h : JsonBlank blank) : skipWs blank = [] := by
  have hskip := skipWs_append h []
  rw [List.append_nil] at hskip
  exact hskip

theorem skipWs_split (text : Bytes) :
    exists blank, JsonBlank blank ∧ text = blank ++ skipWs text := by
  refine ⟨text.takeWhile isJsonBlank, ?_, List.takeWhile_append_dropWhile.symm⟩
  exact fun b hb => (isJsonBlank_iff b).mp (List.mem_takeWhile_imp hb)

theorem skipWs_head {text rest : Bytes} {b : Byte} (h : skipWs text = b :: rest) :
    isJsonBlank b = false := by
  have hne : text.dropWhile isJsonBlank ≠ [] := by
    intro hnil
    unfold skipWs at h
    rw [hnil] at h
    cases h
  have hhead := List.head_dropWhile_not isJsonBlank hne
  unfold skipWs at h
  simpa only [h, List.head_cons] using hhead

theorem skipWs_skipWs (text : Bytes) : skipWs (skipWs text) = skipWs text := by
  cases hskip : skipWs text with
  | nil => rfl
  | cons b rest => exact skipWs_cons (skipWs_head hskip) rest

theorem not_isJsonBlank_of_mark {b : Byte}
    (h : b = Byte.doubleQuote ∨ b = 0x3A ∨ b = Byte.comma ∨ b = 0x7B ∨ b = 0x7D) :
    isJsonBlank b = false := by
  rcases h with rfl | rfl | rfl | rfl | rfl <;> rfl

theorem skipWs_mark {blank : Bytes} (h : JsonBlank blank) {b : Byte}
    (hb : b = Byte.doubleQuote ∨ b = 0x3A ∨ b = Byte.comma ∨ b = 0x7B ∨ b = 0x7D)
    (text : Bytes) : skipWs (blank ++ b :: text) = b :: text := by
  rw [skipWs_append h, skipWs_cons (not_isJsonBlank_of_mark hb)]

/-!
## Strings and values
-/

theorem parseJsonStringTail_iff {text decoded rest : Bytes} :
    parseJsonStringTail text = some (decoded, rest) <->
      exists label, FieldChars decoded label ∧
        text = label ++ Byte.doubleQuote :: rest := by
  constructor
  · intro h
    fun_induction parseJsonStringTail text generalizing decoded rest with
    | case1 => cases h
    | case2 =>
        cases h
        exact ⟨[], .nil, rfl⟩
    | case3 => cases h
    | case4 => cases h
    | case5 letter more byte hescape hquote ih =>
        rcases Option.map_eq_some_iff.mp h with ⟨parsed, hparsed, hpair⟩
        cases hpair
        rcases ih hparsed with ⟨label, hlabel, rfl⟩
        exact ⟨_, .escape hescape hlabel, rfl⟩
    | case6 b more hquote hbackslash ih =>
        rcases Option.map_eq_some_iff.mp h with ⟨parsed, hparsed, hpair⟩
        cases hpair
        rcases ih hparsed with ⟨label, hlabel, rfl⟩
        exact ⟨_, .plain hquote hbackslash hlabel, rfl⟩
  · rintro ⟨label, hlabel, rfl⟩
    induction hlabel with
    | nil =>
        rw [List.nil_append, parseJsonStringTail.eq_def]
        simp only [if_true]
    | plain hquote hbackslash hrest ih =>
        rw [List.cons_append, parseJsonStringTail.eq_def]
        simp only [hquote, hbackslash, if_false, ih, Option.map_some]
    | escape hescape hrest ih =>
        rw [List.cons_append, List.cons_append, parseJsonStringTail.eq_def]
        simp only [hescape, ih, Option.map_some, if_true]
        rfl

theorem jsonQuoted_append (label rest : Bytes) :
    jsonQuoted label ++ rest =
      Byte.doubleQuote :: (label ++ Byte.doubleQuote :: rest) := by
  unfold jsonQuoted
  rw [List.cons_append, List.append_assoc, List.singleton_append]

theorem parseJsonString_quoted {decoded label : Bytes} (h : FieldChars decoded label)
    (rest : Bytes) : parseJsonString (jsonQuoted label ++ rest) = some (decoded, rest) := by
  rw [jsonQuoted_append]
  exact parseJsonStringTail_iff.mpr ⟨label, h, rfl⟩

theorem parseJsonString_some {text decoded rest : Bytes}
    (h : parseJsonString text = some (decoded, rest)) :
    exists label, FieldChars decoded label ∧ text = jsonQuoted label ++ rest := by
  cases text with
  | nil => cases h
  | cons b text =>
      rw [parseJsonString] at h
      split at h
      · next hquote =>
          rcases parseJsonStringTail_iff.mp h with ⟨label, hlabel, rfl⟩
          exact ⟨label, hlabel, by rw [hquote, jsonQuoted_append]⟩
      · cases h

def EndsValue (rest : Bytes) : Prop :=
  forall b more, rest = b :: more -> isNumberByte b = false

theorem blank_head {blank rest more : Bytes} {b first : Byte} (h : JsonBlank blank)
    (htext : blank ++ b :: rest = first :: more) :
    first = b ∨ isJsonBlank first = true := by
  cases blank with
  | nil => exact .inl (List.cons.inj htext).1.symm
  | cons other blank =>
      right
      rw [← (List.cons.inj htext).1, isJsonBlank_iff]
      exact h other List.mem_cons_self

theorem endsValue_blank {blank : Bytes} (h : JsonBlank blank) {b : Byte}
    (hb : isNumberByte b = false) (rest : Bytes) : EndsValue (blank ++ b :: rest) := by
  have hblank : forall first : Byte, isJsonBlank first = true ->
      isNumberByte first = false := by
    decide +kernel
  intro first more htext
  rcases blank_head h htext with rfl | hfirst
  · exact hb
  · exact hblank first hfirst

theorem numberByte_first {b : Byte} (h : isNumberByte b = true) :
    isJsonBlank b = false ∧ b ≠ Byte.doubleQuote ∧ 0x6E ≠ b ∧ 0x74 ≠ b ∧ 0x66 ≠ b := by
  revert b
  decide +kernel

theorem skipJsonValue_bare {text rest : Bytes} (h : IsBare text)
    (hends : EndsValue rest) : skipJsonValue (text ++ rest) = some rest := by
  cases h with
  | word hword =>
      simp only [jsonWords, List.mem_cons, List.not_mem_nil, or_false] at hword
      rcases hword with rfl | rfl | rfl <;> rfl
  | digits hne hdigits =>
      have hdrop : (text ++ rest).dropWhile isNumberByte = rest := by
        rw [List.dropWhile_append_of_pos hdigits]
        cases rest with
        | nil => rfl
        | cons b more =>
            rw [List.dropWhile_cons, if_neg (by rw [hends b more rfl]; exact nofun)]
      cases text with
      | nil => exact absurd rfl hne
      | cons b text =>
          rcases numberByte_first (hdigits b List.mem_cons_self) with
            ⟨hblank, hquote, hn, ht, hf⟩
          have hwords : forall {letter : Byte} {letters : Bytes}, letter ≠ b ->
              (letter :: letters).isPrefixOf (b :: (text ++ rest)) = false := by
            intro letter letters hletter
            rw [List.isPrefixOf_cons_cons, beq_false_of_ne hletter, Bool.false_and]
          have hlonger : rest.length ≠ (b :: (text ++ rest)).length := by
            rw [List.length_cons, List.length_append]
            omega
          have hhead : ¬ (b :: (text ++ rest)).head? = some Byte.doubleQuote :=
            fun h => hquote (Option.some.inj h)
          rw [List.cons_append] at hdrop ⊢
          have hnull : (ascii "null").isPrefixOf (b :: (text ++ rest)) = false :=
            hwords hn
          have htrue : (ascii "true").isPrefixOf (b :: (text ++ rest)) = false :=
            hwords ht
          have hfalse : (ascii "false").isPrefixOf (b :: (text ++ rest)) = false :=
            hwords hf
          simp only [skipJsonValue, skipWs_cons hblank, hhead, hnull, htrue, hfalse, hdrop,
            Bool.false_eq_true, if_false, ne_eq, hlonger, not_false_eq_true, if_true]

theorem skipWs_written {value : FieldValue} {text : Bytes} (h : value.Written text)
    (rest : Bytes) : skipWs (text ++ rest) = text ++ rest := by
  cases h with
  | quoted hchars =>
      rw [jsonQuoted_append]
      exact skipWs_cons rfl _
  | bare hbare =>
      cases hbare with
      | word hword =>
          simp only [jsonWords, List.mem_cons, List.not_mem_nil, or_false] at hword
          rcases hword with rfl | rfl | rfl <;> rfl
      | digits hne hdigits =>
          cases text with
          | nil => exact absurd rfl hne
          | cons b text =>
              exact skipWs_cons (numberByte_first (hdigits b List.mem_cons_self)).1 _

theorem skipJsonValue_written {value : FieldValue} {text rest : Bytes}
    (h : value.Written text) (hends : EndsValue rest) :
    skipJsonValue (text ++ rest) = some rest := by
  cases h with
  | bare hbare => exact skipJsonValue_bare hbare hends
  | @quoted decoded label hchars =>
      have hskip := skipWs_written (.quoted hchars) rest
      have hhead : (jsonQuoted label ++ rest).head? = some Byte.doubleQuote := rfl
      simp only [skipJsonValue, hskip, hhead, if_true, parseJsonString_quoted hchars,
        Option.map_some]

theorem skipJsonValue_some {text rest : Bytes} (hskip : skipWs text = text)
    (h : skipJsonValue text = some rest) :
    exists value part, FieldValue.Written value part ∧ text = part ++ rest := by
  have hword : forall {word : Bytes}, word ∈ jsonWords -> word.isPrefixOf text = true ->
      text.drop word.length = rest ->
        exists value part, FieldValue.Written value part ∧ text = part ++ rest := by
    intro word hmem hprefix hdrop
    refine ⟨.bare word, word, .bare (.word hmem), ?_⟩
    rw [← hdrop]
    exact (List.prefix_iff_eq_append.mp (List.isPrefixOf_iff_prefix.mp hprefix)).symm
  unfold skipJsonValue at h
  simp only [hskip] at h
  split at h
  · rcases Option.map_eq_some_iff.mp h with ⟨⟨decoded, behind⟩, hparsed, rfl⟩
    rcases parseJsonString_some hparsed with ⟨label, hchars, htext⟩
    exact ⟨.quoted decoded label, _, .quoted hchars, htext⟩
  · split at h
    · next hnull => exact hword (by decide) hnull (Option.some.inj h)
    · split at h
      · next htrue => exact hword (by decide) htrue (Option.some.inj h)
      · split at h
        · next hfalse => exact hword (by decide) hfalse (Option.some.inj h)
        · split at h
          · next hmoved =>
              have hrest := Option.some.inj h
              have hsplit : text = text.takeWhile isNumberByte ++ rest := by
                rw [← hrest, List.takeWhile_append_dropWhile]
              refine ⟨.bare _, _, .bare (.digits ?_ ?_), hsplit⟩
              · intro hnil
                rw [hnil, List.nil_append] at hsplit
                rw [hrest, ← hsplit] at hmoved
                exact hmoved rfl
              · exact fun b hb => List.mem_takeWhile_imp hb
          · cases h

/-!
## One round of the loop
-/

theorem memberValue_written {field : Field} {text rest : Bytes}
    (h : field.value.Written text) (hallowed : field.Allowed) (hends : EndsValue rest)
    (found : Option Bytes) :
    memberValue field.name found (text ++ rest) = some (field.after found, rest) := by
  unfold memberValue Field.after
  split
  · next hsql =>
      rcases hallowed hsql with ⟨decoded, label, hvalue⟩
      rw [hvalue] at h ⊢
      cases h with
      | quoted hchars =>
          rw [parseJsonString_quoted hchars, Option.map_some]
          rfl
  · rw [skipJsonValue_written h hends, Option.map_some]

theorem memberValue_some {key text rest : Bytes} {found next : Option Bytes}
    (hskip : skipWs text = text)
    (h : memberValue key found text = some (next, rest)) (label : Bytes) :
    exists value part, FieldValue.Written value part ∧ text = part ++ rest ∧
      Field.Allowed ⟨key, label, value⟩ ∧ next = Field.after found ⟨key, label, value⟩ := by
  unfold memberValue at h
  split at h
  · next hsql =>
      rcases Option.map_eq_some_iff.mp h with ⟨⟨decoded, behind⟩, hparsed, hpair⟩
      cases hpair
      rcases parseJsonString_some hparsed with ⟨inner, hchars, htext⟩
      refine ⟨.quoted decoded inner, _, .quoted hchars, htext, ?_, ?_⟩
      · exact fun _ => ⟨decoded, inner, rfl⟩
      · exact (if_pos hsql).symm
  · next hother =>
      rcases Option.map_eq_some_iff.mp h with ⟨behind, hskipped, hpair⟩
      cases hpair
      rcases skipJsonValue_some hskip hskipped with ⟨value, part, hvalue, htext⟩
      refine ⟨value, part, hvalue, htext, ?_, ?_⟩
      · exact fun hsql => absurd hsql hother
      · exact (if_neg hother).symm

def behindValue (fuel : Nat) (text : Bytes) (found : Option Bytes) : SqlField :=
  match skipWs text with
  | [] => .invalid
  | b :: rest =>
      if b = Byte.comma then extractMembers fuel rest found
      else if b = 0x7D then closeObject rest found
      else .invalid

theorem extractMembers_close {left : Bytes} (hleft : JsonBlank left) (rest : Bytes)
    (fuel : Nat) (found : Option Bytes) :
    extractMembers (fuel + 1) (left ++ 0x7D :: rest) found = closeObject rest found := by
  rw [extractMembers, skipWs_mark hleft (by decide)]
  simp only [if_true]

theorem extractMembers_field {field : Field} {left text rest : Bytes}
    (hleft : JsonBlank left) (hfield : field.Written text) (hallowed : field.Allowed)
    (hends : EndsValue rest) (fuel : Nat) (found : Option Bytes) :
    extractMembers (fuel + 1) (left ++ (text ++ rest)) found =
      behindValue fuel rest (field.after found) := by
  cases hfield with
  | @parts colon value hname hcolon hvalue =>
      cases hcolon with
      | @blanks before behind hbefore hbehind =>
          have htext : left ++ ((jsonQuoted field.label ++
              ((before ++ 0x3A :: behind) ++ value)) ++ rest) =
              left ++ Byte.doubleQuote :: (field.label ++ Byte.doubleQuote ::
                (before ++ 0x3A :: (behind ++ (value ++ rest)))) := by
            rw [List.append_assoc, jsonQuoted_append]
            simp only [List.append_assoc, List.cons_append]
          have hkey := parseJsonString_quoted hname
            (before ++ 0x3A :: (behind ++ (value ++ rest)))
          have hvalueText : skipWs (behind ++ (value ++ rest)) = value ++ rest := by
            rw [skipWs_append hbehind, skipWs_written hvalue]
          have hmark : ¬ (Byte.doubleQuote = 0x7D) := by simp [Byte.doubleQuote]
          rw [jsonQuoted_append] at hkey
          rw [htext, extractMembers, skipWs_mark hleft (.inl rfl)]
          simp only [hmark, if_false, hkey, skipWs_mark hbefore (.inr (.inl rfl)),
            ne_eq, not_true_eq_false, hvalueText,
            memberValue_written hvalue hallowed hends]
          rfl

theorem extractMembers_round {fuel : Nat} {text : Bytes} {found : Option Bytes}
    (h : extractMembers (fuel + 1) text found ≠ .invalid) :
    (exists left rest, JsonBlank left ∧ text = left ++ 0x7D :: rest ∧
        closeObject rest found ≠ .invalid) ∨
      exists field left part rest, JsonBlank left ∧ Field.Written field part ∧
        field.Allowed ∧ text = left ++ (part ++ rest) ∧
          behindValue fuel rest (field.after found) ≠ .invalid := by
  rcases skipWs_split text with ⟨left, hleft, hsplit⟩
  rw [extractMembers] at h
  split at h
  · exact absurd rfl h
  · next b rest hskip =>
      rw [hskip] at hsplit
      split at h
      · next hbrace =>
          rw [hbrace] at hsplit
          exact .inl ⟨left, rest, hleft, hsplit, h⟩
      · right
        split at h
        · exact absurd rfl h
        · next key behindKey hkey =>
            rcases parseJsonString_some hkey with ⟨label, hname, hlabel⟩
            rcases skipWs_split behindKey with ⟨before, hbefore, hbeforeColon⟩
            split at h
            · exact absurd rfl h
            · next colon behindColon hcolon =>
                rw [hcolon] at hbeforeColon
                split at h
                · exact absurd rfl h
                · next hmark =>
                    rcases skipWs_split behindColon with ⟨after, hafter, hafterColon⟩
                    split at h
                    · exact absurd rfl h
                    · next sqlOut behindAll hvalue =>
                        have hcolonByte : colon = 0x3A := Classical.not_not.mp hmark
                        rcases memberValue_some (skipWs_skipWs _) hvalue label with
                          ⟨value, part, hwritten, hpart, hallowed, hafterValue⟩
                        refine ⟨⟨key, label, value⟩, left,
                          jsonQuoted label ++ ((before ++ 0x3A :: after) ++ part),
                          behindAll, hleft, ?_, hallowed, ?_, ?_⟩
                        · exact .parts hname (.blanks hbefore hafter) hwritten
                        · rw [hsplit, hlabel, hbeforeColon, hafterColon, hpart, hcolonByte]
                          simp only [List.append_assoc, List.cons_append]
                        · rw [← hafterValue]
                          exact h

/-!
## The whole loop
-/

theorem closeObject_blank {right : Bytes} (h : JsonBlank right) (found : Option Bytes) :
    closeObject right found = sqlAnswer found := by
  unfold closeObject
  rw [skipWs_blank h]
  cases found <;> rfl

theorem closeObject_ne_invalid {rest : Bytes} {found : Option Bytes}
    (h : closeObject rest found ≠ .invalid) : JsonBlank rest := by
  rcases skipWs_split rest with ⟨blank, hblank, hsplit⟩
  unfold closeObject at h
  split at h
  · exact absurd rfl h
  · next hnone =>
      rw [Classical.not_not.mp hnone, List.append_nil] at hsplit
      rw [hsplit]
      exact hblank

theorem behindValue_brace {left : Bytes} (hleft : JsonBlank left) (rest : Bytes)
    (fuel : Nat) (found : Option Bytes) :
    behindValue fuel (left ++ 0x7D :: rest) found = closeObject rest found := by
  have hmark : ¬ ((0x7D : Byte) = Byte.comma) := by simp [Byte.comma]
  unfold behindValue
  rw [skipWs_mark hleft (by simp)]
  simp only [hmark, if_false, if_true]

theorem behindValue_comma {left : Bytes} (hleft : JsonBlank left) (rest : Bytes)
    (fuel : Nat) (found : Option Bytes) :
    behindValue fuel (left ++ Byte.comma :: rest) found =
      extractMembers fuel rest found := by
  unfold behindValue
  rw [skipWs_mark hleft (by simp)]
  simp only [if_true]

theorem ObjectRest.close_cases {text : Bytes} (h : ObjectRest [] false text) :
    exists left right, JsonBlank left ∧ JsonBlank right ∧ text = left ++ 0x7D :: right := by
  cases h with
  | close hleft hright => exact ⟨_, _, hleft, hright, rfl⟩

theorem ObjectRest.extracted {fields : List Field} {comma : Bool} {text : Bytes}
    (h : ObjectRest fields comma text)
    (hallowed : forall field, field ∈ fields -> Field.Allowed field) :
    forall (fuel : Nat) (found : Option Bytes), text.length ≤ fuel ->
      extractMembers fuel text found = sqlAnswer (fields.foldl Field.after found) := by
  induction h with
  | close hleft hright =>
      intro fuel found hfuel
      cases fuel with
      | zero =>
          rw [List.length_append, List.length_cons] at hfuel
          omega
      | succ fuel => rw [extractMembers_close hleft, closeObject_blank hright, List.foldl_nil]
  | @last field left part rest hleft hfield hrest ih =>
      intro fuel found hfuel
      rcases hrest.close_cases with ⟨blank, right, hblank, hright, rfl⟩
      cases fuel with
      | zero =>
          simp only [List.length_append, List.length_cons] at hfuel
          omega
      | succ fuel =>
          rw [extractMembers_field hleft hfield (hallowed field List.mem_cons_self)
            (endsValue_blank hblank rfl _), behindValue_brace hblank,
            closeObject_blank hright, List.foldl_cons, List.foldl_nil]
  | @trailing field left part blank rest hleft hfield hblank hrest ih =>
      intro fuel found hfuel
      simp only [List.length_append, List.length_cons] at hfuel
      cases fuel with
      | zero => omega
      | succ fuel =>
          rw [extractMembers_field hleft hfield (hallowed field List.mem_cons_self)
            (endsValue_blank hblank rfl _), behindValue_comma hblank, List.foldl_cons]
          exact ih nofun fuel _ (by omega)
  | @more field next fields comma left part blank rest hleft hfield hblank hrest ih =>
      intro fuel found hfuel
      simp only [List.length_append, List.length_cons] at hfuel
      cases fuel with
      | zero => omega
      | succ fuel =>
          rw [extractMembers_field hleft hfield (hallowed field List.mem_cons_self)
            (endsValue_blank hblank rfl _), behindValue_comma hblank, List.foldl_cons]
          exact ih (fun other hother => hallowed other (List.mem_cons_of_mem _ hother))
            fuel _ (by omega)

theorem extractMembers_reads {fuel : Nat} {text : Bytes} {found : Option Bytes}
    (h : extractMembers fuel text found ≠ .invalid) :
    exists fields comma, ObjectRest fields comma text ∧
      forall field, field ∈ fields -> Field.Allowed field := by
  induction fuel generalizing text found with
  | zero => exact absurd rfl h
  | succ fuel ih =>
      rcases extractMembers_round h with
        ⟨left, rest, hleft, rfl, hclose⟩ |
          ⟨field, left, part, rest, hleft, hfield, hallowed, rfl, hbehind⟩
      · exact ⟨[], false, .close hleft (closeObject_ne_invalid hclose), nofun⟩
      · rcases skipWs_split rest with ⟨blank, hblank, hsplit⟩
        unfold behindValue at hbehind
        split at hbehind
        · exact absurd rfl hbehind
        · next b after hskip =>
            rw [hskip] at hsplit
            split at hbehind
            · next hcomma =>
                rcases ih hbehind with ⟨fields, comma, hrest, hall⟩
                rw [hsplit, hcomma]
                cases fields with
                | nil =>
                    cases hrest with
                    | close hbefore hright =>
                        refine ⟨[field], true, .trailing hleft hfield hblank
                          (.close hbefore hright), ?_⟩
                        intro other hother
                        rw [List.mem_singleton.mp hother]
                        exact hallowed
                | cons next fields =>
                    refine ⟨_, comma, .more hleft hfield hblank hrest, ?_⟩
                    intro other hother
                    rcases List.mem_cons.mp hother with rfl | hother
                    · exact hallowed
                    · exact hall other hother
            · split at hbehind
              · next hbrace =>
                  rw [hsplit, hbrace]
                  refine ⟨[field], false, .last hleft hfield
                    (.close hblank (closeObject_ne_invalid hbehind)), ?_⟩
                  intro other hother
                  rw [List.mem_singleton.mp hother]
                  exact hallowed
              · exact absurd rfl hbehind

theorem FlatObject.extracted {fields : List Field} {comma : Bool} {body : Bytes}
    (h : FlatObject fields comma (cString body))
    (hallowed : forall field, field ∈ fields -> Field.Allowed field) :
    extractSqlField body = sqlAnswer (fields.foldl Field.after none) := by
  generalize htext : cString body = text at h
  cases h with
  | @blanks left rest hleft hrest =>
      have hmark : ¬ ((0x7B : Byte) ≠ 0x7B) := fun h => h rfl
      unfold extractSqlField
      rw [htext, skipWs_mark hleft (by simp)]
      simp only [hmark, if_false]
      exact hrest.extracted hallowed _ _ (Nat.le_succ _)

theorem extractSqlField_reads {body : Bytes} (h : extractSqlField body ≠ .invalid) :
    exists fields comma, FlatObject fields comma (cString body) ∧
      forall field, field ∈ fields -> Field.Allowed field := by
  rcases skipWs_split (cString body) with ⟨left, hleft, hsplit⟩
  unfold extractSqlField at h
  split at h
  · exact absurd rfl h
  · next b rest hskip =>
      rw [hskip] at hsplit
      split at h
      · exact absurd rfl h
      · next hbrace =>
          rcases extractMembers_reads h with ⟨fields, comma, hrest, hallowed⟩
          rw [hsplit, Classical.not_not.mp hbrace]
          exact ⟨fields, comma, .blanks hleft hrest, hallowed⟩

def lastField (name : Bytes) (fields : List Field) : Option Field :=
  fields.reverse.find? fun field => decide (field.name = name)

theorem foldl_after (fields : List Field) (found : Option Bytes) :
    fields.foldl Field.after found =
      (lastField (ascii "sql") fields).elim found fun field => field.value.string := by
  induction fields generalizing found with
  | nil => rfl
  | cons field fields ih =>
      have hlast : lastField (ascii "sql") (field :: fields) =
          (lastField (ascii "sql") fields).or
            ([field].find? fun field => decide (field.name = ascii "sql")) := by
        unfold lastField
        rw [List.reverse_cons, List.find?_append]
      rw [List.foldl_cons, ih, hlast]
      cases lastField (ascii "sql") fields with
      | some last => rfl
      | none =>
          unfold Field.after
          by_cases hsql : field.name = ascii "sql"
          · simp [hsql]
          · simp [hsql]

end Api
end SqlCsvServer
