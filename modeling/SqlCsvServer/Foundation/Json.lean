import SqlCsvServer.Foundation.Decimal

/-!
# JSON texts

The grammar of RFC 8259 on bytes in UTF-8, as a relation between a value and the
texts that denote it.  A string is given by the UTF-8 bytes of its characters.
-/

namespace SqlCsvServer
namespace Foundation

def utf8Bytes (chars : List Char) : Bytes :=
  chars.flatMap String.utf8EncodeChar

/-!
## Strings
-/

def jsonEscapes : List (Byte × Byte) :=
  [(0x22, 0x22), (0x5C, 0x5C), (0x2F, 0x2F), (0x62, 0x08), (0x66, 0x0C),
    (0x6E, 0x0A), (0x72, 0x0D), (0x74, 0x09)]

def hexDigitValue (b : Byte) : Option Nat :=
  if isDigit b then some (b.toNat - 0x30)
  else if 0x41 ≤ b ∧ b ≤ 0x46 then some (b.toNat - 0x37)
  else if 0x61 ≤ b ∧ b ≤ 0x66 then some (b.toNat - 0x57)
  else none

def hexUnit (digits : Bytes) : Option Nat :=
  if digits.length = 4 then
    digits.foldlM (fun n b => (hexDigitValue b).map fun d => 16 * n + d) 0
  else none

def IsHighSurrogate (n : Nat) : Prop :=
  0xD800 ≤ n ∧ n < 0xDC00

def IsLowSurrogate (n : Nat) : Prop :=
  0xDC00 ≤ n ∧ n < 0xE000

inductive JsonChars : Bytes -> Bytes -> Prop where
  | nil : JsonChars [] []
  | plain {c : Char} {decoded text : Bytes} (hcontrol : 0x20 ≤ c.toNat)
      (hquote : c ≠ '"') (hbackslash : c ≠ '\\')
      (hrest : JsonChars decoded text) :
      JsonChars (String.utf8EncodeChar c ++ decoded)
        (String.utf8EncodeChar c ++ text)
  | escape {letter b : Byte} {decoded text : Bytes}
      (hescape : (letter, b) ∈ jsonEscapes) (hrest : JsonChars decoded text) :
      JsonChars (b :: decoded) (Byte.backslash :: letter :: text)
  | unicode {c : Char} {digits decoded text : Bytes}
      (hunit : hexUnit digits = some c.toNat) (hrest : JsonChars decoded text) :
      JsonChars (String.utf8EncodeChar c ++ decoded)
        (Byte.backslash :: 0x75 :: (digits ++ text))
  | surrogates {c : Char} {high low : Nat} {first second decoded text : Bytes}
      (hfirst : hexUnit first = some high) (hhigh : IsHighSurrogate high)
      (hsecond : hexUnit second = some low) (hlow : IsLowSurrogate low)
      (hchar : c.toNat = 0x10000 + 0x400 * (high - 0xD800) + (low - 0xDC00))
      (hrest : JsonChars decoded text) :
      JsonChars (String.utf8EncodeChar c ++ decoded)
        (Byte.backslash :: 0x75 ::
          (first ++ Byte.backslash :: 0x75 :: (second ++ text)))
  /-- Half of a pair on its own is allowed, but stands for no character. -/
  | lone {unit : Nat} {digits unknown decoded text : Bytes}
      (hunit : hexUnit digits = some unit)
      (hsurrogate : IsHighSurrogate unit ∨ IsLowSurrogate unit)
      (hrest : JsonChars decoded text) :
      JsonChars (unknown ++ decoded) (Byte.backslash :: 0x75 :: (digits ++ text))

def jsonQuoted (text : Bytes) : Bytes :=
  Byte.doubleQuote :: (text ++ [Byte.doubleQuote])

/-!
## Numbers
-/

inductive JsonInt : Bytes -> Prop where
  | zero : JsonInt [0x30]
  | digits {b : Byte} {rest : Bytes} (hfirst : isDigit b = true)
      (hnonzero : b ≠ 0x30) (hrest : forall d, d ∈ rest -> isDigit d = true) :
      JsonInt (b :: rest)

inductive JsonFraction : Bytes -> Prop where
  | absent : JsonFraction []
  | digits {rest : Bytes} (hne : rest ≠ [])
      (hrest : forall d, d ∈ rest -> isDigit d = true) :
      JsonFraction (0x2E :: rest)

inductive JsonExponent : Bytes -> Prop where
  | absent : JsonExponent []
  | digits {mark : Byte} {sign rest : Bytes} (hmark : mark = 0x65 ∨ mark = 0x45)
      (hsign : sign = [] ∨ sign = [0x2B] ∨ sign = [0x2D]) (hne : rest ≠ [])
      (hrest : forall d, d ∈ rest -> isDigit d = true) :
      JsonExponent (mark :: (sign ++ rest))

inductive JsonNumber : Bytes -> Prop where
  | parts {sign int fraction exponent : Bytes} (hsign : sign = [] ∨ sign = [0x2D])
      (hint : JsonInt int) (hfraction : JsonFraction fraction)
      (hexponent : JsonExponent exponent) :
      JsonNumber (sign ++ int ++ fraction ++ exponent)

/-!
## Values
-/

inductive JsonValue where
  | null
  | bool (truth : Bool)
  | number (text : Bytes)
  | string (text : Bytes)
  | array (items : List JsonValue)
  | object (members : List (Bytes × JsonValue))

def JsonValue.field (name : Bytes) : JsonValue -> Option JsonValue
  | .object members =>
      (members.reverse.find? fun entry => decide (entry.1 = name)).map Prod.snd
  | _ => none

def JsonBlank (text : Bytes) : Prop :=
  forall b, b ∈ text ->
    b = Byte.space ∨ b = Byte.tab ∨ b = Byte.lineFeed ∨ b = Byte.carriageReturn

theorem JsonBlank.append {left right : Bytes} (hleft : JsonBlank left)
    (hright : JsonBlank right) : JsonBlank (left ++ right) := by
  intro b hb
  rcases List.mem_append.mp hb with hb | hb
  · exact hleft b hb
  · exact hright b hb

/-- A structural byte with blanks around it. -/
inductive JsonMark (b : Byte) : Bytes -> Prop where
  | blanks {left right : Bytes} (hleft : JsonBlank left)
      (hright : JsonBlank right) : JsonMark b (left ++ b :: right)

mutual

/-- A value and a text that denotes it. -/
inductive JsonWritten : JsonValue -> Bytes -> Prop where
  | null : JsonWritten .null (ascii "null")
  | false : JsonWritten (.bool false) (ascii "false")
  | true : JsonWritten (.bool true) (ascii "true")
  | number {text : Bytes} (hnumber : JsonNumber text) :
      JsonWritten (.number text) text
  | string {decoded text : Bytes} (hchars : JsonChars decoded text) :
      JsonWritten (.string decoded) (jsonQuoted text)
  | array {items : List JsonValue} {left text right : Bytes}
      (hleft : JsonMark 0x5B left) (hitems : JsonItems items text)
      (hright : JsonMark 0x5D right) :
      JsonWritten (.array items) (left ++ text ++ right)
  | object {members : List (Bytes × JsonValue)} {left text right : Bytes}
      (hleft : JsonMark 0x7B left) (hmembers : JsonMembers members text)
      (hright : JsonMark 0x7D right) :
      JsonWritten (.object members) (left ++ text ++ right)

inductive JsonItems : List JsonValue -> Bytes -> Prop where
  | none : JsonItems [] []
  | last {value : JsonValue} {text : Bytes} (hvalue : JsonWritten value text) :
      JsonItems [value] text
  | cons {value next : JsonValue} {more : List JsonValue} {text comma rest : Bytes}
      (hvalue : JsonWritten value text) (hcomma : JsonMark 0x2C comma)
      (hmore : JsonItems (next :: more) rest) :
      JsonItems (value :: next :: more) (text ++ comma ++ rest)

inductive JsonMembers : List (Bytes × JsonValue) -> Bytes -> Prop where
  | none : JsonMembers [] []
  | last {name label colon text : Bytes} {value : JsonValue}
      (hname : JsonChars name label) (hcolon : JsonMark 0x3A colon)
      (hvalue : JsonWritten value text) :
      JsonMembers [(name, value)] (jsonQuoted label ++ colon ++ text)
  | cons {name label colon text comma rest : Bytes} {value : JsonValue}
      {next : Bytes × JsonValue} {more : List (Bytes × JsonValue)}
      (hname : JsonChars name label) (hcolon : JsonMark 0x3A colon)
      (hvalue : JsonWritten value text) (hcomma : JsonMark 0x2C comma)
      (hmore : JsonMembers (next :: more) rest) :
      JsonMembers ((name, value) :: next :: more)
        (jsonQuoted label ++ colon ++ text ++ comma ++ rest)

end

/-- A whole text and the value it denotes. -/
inductive JsonText (value : JsonValue) : Bytes -> Prop where
  | blanks {left text right : Bytes} (hleft : JsonBlank left)
      (hvalue : JsonWritten value text) (hright : JsonBlank right) :
      JsonText value (left ++ text ++ right)

/-!
## What stands in a text
-/

def IsJsonByte (b : Byte) : Prop :=
  (0x20 ≤ b ∧ b < 0xF8) ∨ b = Byte.tab ∨ b = Byte.lineFeed ∨
    b = Byte.carriageReturn

instance (b : Byte) : Decidable (IsJsonByte b) :=
  inferInstanceAs (Decidable (_ ∨ _))

theorem isDigit_isJsonByte {b : Byte} (h : isDigit b = true) : IsJsonByte b := by
  revert b
  decide +kernel

theorem hexDigit_isJsonByte {b : Byte} {n : Nat} (h : hexDigitValue b = some n) :
    IsJsonByte b := by
  have hall : forall b : Byte, (hexDigitValue b).isSome = true -> IsJsonByte b := by
    decide +kernel
  exact hall b (by rw [h]; rfl)

theorem utf8EncodeChar_isJsonByte {c : Char} (h : 0x20 ≤ c.toNat) {b : Byte}
    (hb : b ∈ String.utf8EncodeChar c) : IsJsonByte b := by
  have hbyte : forall n : Nat, 0x20 ≤ n -> n < 0xF8 ->
      IsJsonByte (UInt8.ofNat n) := by
    intro n hlow hhigh
    left
    have hmod : n % 256 = n := Nat.mod_eq_of_lt (Nat.lt_trans hhigh (by decide))
    constructor
    · rw [UInt8.le_iff_toNat_le, UInt8.toNat_ofNat', hmod]
      exact hlow
    · rw [UInt8.lt_iff_toNat_lt, UInt8.toNat_ofNat', hmod]
      exact hhigh
  change 0x20 ≤ c.val.toNat at h
  unfold String.utf8EncodeChar at hb
  simp only at hb
  split at hb
  · rw [List.mem_singleton.mp hb]
    exact hbyte _ h (by omega)
  · split at hb
    · simp only [List.mem_cons, List.not_mem_nil, or_false] at hb
      rcases hb with rfl | rfl <;> exact hbyte _ (by omega) (by omega)
    · split at hb
      · simp only [List.mem_cons, List.not_mem_nil, or_false] at hb
        rcases hb with rfl | rfl | rfl <;> exact hbyte _ (by omega) (by omega)
      · simp only [List.mem_cons, List.not_mem_nil, or_false] at hb
        rcases hb with rfl | rfl | rfl | rfl <;> exact hbyte _ (by omega) (by omega)

theorem utf8EncodeChar_beyond {c : Char} (h : 0x7F < c.toNat) {b : Byte}
    (hb : b ∈ String.utf8EncodeChar c) : 0x80 ≤ b := by
  have hbyte : forall n : Nat, 0x80 ≤ n % 256 -> 0x80 ≤ UInt8.ofNat n := by
    intro n hn
    rw [UInt8.le_iff_toNat_le, UInt8.toNat_ofNat']
    exact hn
  have hchar : ¬ c.val.toNat ≤ 0x7F := Nat.not_le.mpr h
  unfold String.utf8EncodeChar at hb
  simp only [hchar, if_false] at hb
  split at hb
  · simp only [List.mem_cons, List.not_mem_nil, or_false] at hb
    rcases hb with rfl | rfl <;> exact hbyte _ (by omega)
  · split at hb
    · simp only [List.mem_cons, List.not_mem_nil, or_false] at hb
      rcases hb with rfl | rfl | rfl <;> exact hbyte _ (by omega)
    · simp only [List.mem_cons, List.not_mem_nil, or_false] at hb
      rcases hb with rfl | rfl | rfl | rfl <;> exact hbyte _ (by omega)

theorem hexUnit_digits {digits : Bytes} {n : Nat} (h : hexUnit digits = some n) :
    forall b, b ∈ digits -> (hexDigitValue b).isSome = true := by
  have hfold : forall (digits : Bytes) (start : Nat),
      (digits.foldlM (fun n b => (hexDigitValue b).map fun d => 16 * n + d)
        start).isSome = true ->
          forall b, b ∈ digits -> (hexDigitValue b).isSome = true := by
    intro digits
    induction digits with
    | nil => exact fun _ _ b hb => absurd hb List.not_mem_nil
    | cons first digits ih =>
        intro start hsome
        rw [List.foldlM_cons] at hsome
        cases hfirst : hexDigitValue first with
        | none =>
            rw [hfirst] at hsome
            cases hsome
        | some d =>
            rw [hfirst] at hsome
            intro b hb
            rcases List.mem_cons.mp hb with rfl | hb
            · rw [hfirst]
              rfl
            · exact ih _ hsome b hb
  unfold hexUnit at h
  split at h
  · exact hfold digits 0 (by rw [h]; rfl)
  · cases h

theorem hexUnit_isJsonByte {digits : Bytes} {n : Nat}
    (h : hexUnit digits = some n) : forall b, b ∈ digits -> IsJsonByte b := by
  intro b hb
  rcases Option.isSome_iff_exists.mp (hexUnit_digits h b hb) with ⟨d, hd⟩
  exact hexDigit_isJsonByte hd

def JsonBytes (text : Bytes) : Prop :=
  forall b, b ∈ text -> IsJsonByte b

instance (text : Bytes) : Decidable (JsonBytes text) :=
  List.decidableBAll IsJsonByte text

theorem JsonBytes.append {left right : Bytes} (hleft : JsonBytes left)
    (hright : JsonBytes right) : JsonBytes (left ++ right) := by
  intro b hb
  rcases List.mem_append.mp hb with hb | hb
  · exact hleft b hb
  · exact hright b hb

theorem JsonBytes.cons {b : Byte} {text : Bytes} (hb : IsJsonByte b)
    (htext : JsonBytes text) : JsonBytes (b :: text) := by
  intro other hother
  rcases List.mem_cons.mp hother with rfl | hother
  · exact hb
  · exact htext other hother

theorem JsonBlank.jsonBytes {text : Bytes} (h : JsonBlank text) :
    JsonBytes text := by
  intro b hb
  rcases h b hb with rfl | hblank
  · exact .inl (by decide)
  · exact .inr hblank

theorem JsonMark.jsonBytes {b : Byte} {text : Bytes} (hb : IsJsonByte b)
    (h : JsonMark b text) : JsonBytes text := by
  cases h with
  | blanks hleft hright => exact hleft.jsonBytes.append (.cons hb hright.jsonBytes)

theorem JsonChars.jsonBytes {decoded text : Bytes} (h : JsonChars decoded text) :
    JsonBytes text := by
  have hunicode : forall {digits rest : Bytes} {n : Nat},
      hexUnit digits = some n -> JsonBytes rest ->
        JsonBytes (Byte.backslash :: 0x75 :: (digits ++ rest)) := by
    intro digits rest n hunit hrest
    have hdigits : JsonBytes digits := hexUnit_isJsonByte hunit
    exact .cons (by decide) (.cons (by decide) (hdigits.append hrest))
  induction h with
  | nil => exact fun _ hb => absurd hb List.not_mem_nil
  | plain hcontrol hquote hbackslash hrest ih =>
      have hchar : JsonBytes (String.utf8EncodeChar _) :=
        fun b hb => utf8EncodeChar_isJsonByte hcontrol hb
      exact hchar.append ih
  | @escape letter b decoded text hescape hrest ih =>
      have hletters :
          jsonEscapes.all (fun entry => decide (IsJsonByte entry.1)) = true := by
        decide
      have hletter := of_decide_eq_true (List.all_eq_true.mp hletters _ hescape)
      exact .cons (by decide) (.cons hletter ih)
  | unicode hunit hrest ih => exact hunicode hunit ih
  | surrogates hfirst hhigh hsecond hlow hchar hrest ih =>
      exact hunicode hfirst (hunicode hsecond ih)
  | lone hunit hsurrogate hrest ih => exact hunicode hunit ih

theorem jsonQuoted_jsonBytes {text : Bytes} (h : JsonBytes text) :
    JsonBytes (jsonQuoted text) :=
  .cons (by decide) (h.append (.cons (by decide) fun _ hb =>
    absurd hb List.not_mem_nil))

def numberMarks : Bytes :=
  [0x2B, 0x2D, 0x2E, 0x65, 0x45]

theorem JsonNumber.bytes {text : Bytes} (h : JsonNumber text) {b : Byte}
    (hb : b ∈ text) : isDigit b = true ∨ b ∈ numberMarks := by
  rcases h with ⟨hsign, hint, hfraction, hexponent⟩
  rcases List.mem_append.mp hb with hb | hb
  · rcases List.mem_append.mp hb with hb | hb
    · rcases List.mem_append.mp hb with hb | hb
      · rcases hsign with rfl | rfl
        · cases hb
        · rw [List.mem_singleton.mp hb]
          exact .inr (by decide)
      · cases hint with
        | zero =>
            rw [List.mem_singleton.mp hb]
            exact .inl rfl
        | digits hfirst hnonzero hrest =>
            rcases List.mem_cons.mp hb with rfl | hb
            · exact .inl hfirst
            · exact .inl (hrest b hb)
    · cases hfraction with
      | absent => cases hb
      | digits hne hrest =>
          rcases List.mem_cons.mp hb with rfl | hb
          · exact .inr (by decide)
          · exact .inl (hrest b hb)
  · cases hexponent with
    | absent => cases hb
    | digits hmark hsign hne hrest =>
        rcases List.mem_cons.mp hb with rfl | hb
        · rcases hmark with rfl | rfl <;> exact .inr (by decide)
        · rcases List.mem_append.mp hb with hb | hb
          · rcases hsign with rfl | rfl | rfl
            · cases hb
            · rw [List.mem_singleton.mp hb]
              exact .inr (by decide)
            · rw [List.mem_singleton.mp hb]
              exact .inr (by decide)
          · exact .inl (hrest b hb)

theorem JsonNumber.ne_nil {text : Bytes} (h : JsonNumber text) : text ≠ [] := by
  rcases h with ⟨hsign, hint, hfraction, hexponent⟩
  cases hint <;> simp

theorem JsonNumber.jsonBytes {text : Bytes} (h : JsonNumber text) :
    JsonBytes text := by
  have hmarks : numberMarks.all (fun b => decide (IsJsonByte b)) = true := by decide
  intro b hb
  rcases h.bytes hb with hdigit | hmark
  · exact isDigit_isJsonByte hdigit
  · exact of_decide_eq_true (List.all_eq_true.mp hmarks b hmark)

mutual

theorem JsonWritten.jsonBytes {value : JsonValue} {text : Bytes} :
    JsonWritten value text -> JsonBytes text
  | .null => by decide
  | .false => by decide
  | .true => by decide
  | .number hnumber => hnumber.jsonBytes
  | .string hchars => jsonQuoted_jsonBytes hchars.jsonBytes
  | .array hleft hitems hright =>
      ((hleft.jsonBytes (by decide)).append hitems.jsonBytes).append
        (hright.jsonBytes (by decide))
  | .object hleft hmembers hright =>
      ((hleft.jsonBytes (by decide)).append hmembers.jsonBytes).append
        (hright.jsonBytes (by decide))

theorem JsonItems.jsonBytes {items : List JsonValue} {text : Bytes} :
    JsonItems items text -> JsonBytes text
  | .none => fun _ hb => absurd hb List.not_mem_nil
  | .last hvalue => hvalue.jsonBytes
  | .cons hvalue hcomma hmore =>
      (hvalue.jsonBytes.append (hcomma.jsonBytes (by decide))).append
        hmore.jsonBytes

theorem JsonMembers.jsonBytes {members : List (Bytes × JsonValue)} {text : Bytes} :
    JsonMembers members text -> JsonBytes text
  | .none => fun _ hb => absurd hb List.not_mem_nil
  | .last hname hcolon hvalue =>
      ((jsonQuoted_jsonBytes hname.jsonBytes).append
        (hcolon.jsonBytes (by decide))).append hvalue.jsonBytes
  | .cons hname hcolon hvalue hcomma hmore =>
      ((((jsonQuoted_jsonBytes hname.jsonBytes).append
        (hcolon.jsonBytes (by decide))).append hvalue.jsonBytes).append
          (hcomma.jsonBytes (by decide))).append hmore.jsonBytes

end

theorem JsonText.jsonBytes {value : JsonValue} {text : Bytes}
    (h : JsonText value text) : JsonBytes text := by
  cases h with
  | blanks hleft hvalue hright =>
      exact (hleft.jsonBytes.append hvalue.jsonBytes).append hright.jsonBytes

theorem JsonChars.eq_of_no_backslash {decoded text : Bytes}
    (h : JsonChars decoded text) (hne : Byte.backslash ∉ text) :
    decoded = text := by
  induction h with
  | nil => rfl
  | plain hcontrol hquote hbackslash hrest ih =>
      rw [ih fun hmem => hne (List.mem_append_right _ hmem)]
  | escape hescape hrest ih => exact absurd List.mem_cons_self hne
  | unicode hunit hrest ih => exact absurd List.mem_cons_self hne
  | surrogates hfirst hhigh hsecond hlow hchar hrest ih =>
      exact absurd List.mem_cons_self hne
  | lone hunit hsurrogate hrest ih => exact absurd List.mem_cons_self hne

theorem utf8EncodeChar_ascii {c : Char} {b : Byte} (hascii : b < 0x80)
    (h : b ∈ String.utf8EncodeChar c) : c = Char.ofNat b.toNat := by
  have hsingle : c.toNat ≤ 0x7F := by
    by_contra hbeyond
    exact absurd (utf8EncodeChar_beyond (Nat.lt_of_not_le hbeyond) h)
      (UInt8.not_le.mpr hascii)
  have hbytes : String.utf8EncodeChar c = [UInt8.ofNat c.toNat] := if_pos hsingle
  rw [hbytes, List.mem_singleton] at h
  rw [h, UInt8.toNat_ofNat', Nat.mod_eq_of_lt (by omega), Char.ofNat_toNat]

theorem JsonChars.no_quote {decoded text : Bytes} (h : JsonChars decoded text)
    (hne : Byte.backslash ∉ text) : Byte.doubleQuote ∉ text := by
  induction h with
  | nil => exact List.not_mem_nil
  | plain hcontrol hquote hbackslash hrest ih =>
      intro hmem
      rcases List.mem_append.mp hmem with hmem | hmem
      · exact hquote (utf8EncodeChar_ascii (by decide) hmem)
      · exact ih (fun hlater => hne (List.mem_append_right _ hlater)) hmem
  | escape hescape hrest ih => exact absurd List.mem_cons_self hne
  | unicode hunit hrest ih => exact absurd List.mem_cons_self hne
  | surrogates hfirst hhigh hsecond hlow hchar hrest ih =>
      exact absurd List.mem_cons_self hne
  | lone hunit hsurrogate hrest ih => exact absurd List.mem_cons_self hne

theorem JsonMembers.member_within {members : List (Bytes × JsonValue)} {text : Bytes} :
    JsonMembers members text -> forall entry, entry ∈ members ->
      exists part, JsonWritten entry.2 part ∧ part <:+: text
  | .none => fun _ hentry => absurd hentry List.not_mem_nil
  | @JsonMembers.last _ label colon part _ _ _ hvalue => by
      intro entry hentry
      rw [List.mem_singleton.mp hentry]
      exact ⟨part, hvalue, (List.suffix_append _ _).isInfix⟩
  | @JsonMembers.cons _ label colon part comma rest _ _ _ _ _ hvalue _ hmore => by
      intro entry hentry
      rcases List.mem_cons.mp hentry with rfl | hentry
      · refine ⟨part, hvalue, jsonQuoted label ++ colon, comma ++ rest, ?_⟩
        simp only [List.append_assoc]
      · rcases hmore.member_within entry hentry with ⟨inner, hinner, hwithin⟩
        exact ⟨inner, hinner, hwithin.trans (List.suffix_append _ _).isInfix⟩

theorem JsonWritten.field_within {value found : JsonValue} {name text : Bytes}
    (h : JsonWritten value text) (hfield : value.field name = some found) :
    exists part, JsonWritten found part ∧ part <:+: text := by
  cases h with
  | object hleft hmembers hright =>
      simp only [JsonValue.field, Option.map_eq_some_iff] at hfield
      rcases hfield with ⟨entry, hentry, rfl⟩
      have hmem := List.mem_reverse.mp (List.mem_of_find?_eq_some hentry)
      rcases hmembers.member_within entry hmem with ⟨part, hpart, hwithin⟩
      exact ⟨part, hpart, hwithin.trans ⟨_, _, rfl⟩⟩
  | _ => cases hfield

theorem JsonText.field_within {value found : JsonValue} {name text : Bytes}
    (h : JsonText value text) (hfield : value.field name = some found) :
    exists part, JsonWritten found part ∧ part <:+: text := by
  cases h with
  | blanks hleft hvalue hright =>
      rcases hvalue.field_within hfield with ⟨part, hpart, hwithin⟩
      exact ⟨part, hpart, hwithin.trans ⟨_, _, rfl⟩⟩

theorem JsonWritten.string_within {decoded text : Bytes}
    (h : JsonWritten (.string decoded) text) (hne : Byte.backslash ∉ text) :
    text = jsonQuoted decoded ∧ Byte.doubleQuote ∉ decoded := by
  cases h with
  | @string decoded text hchars =>
      have hinner : Byte.backslash ∉ text := by
        intro hmem
        exact hne (List.mem_cons_of_mem _ (List.mem_append_left _ hmem))
      have hquote := hchars.no_quote hinner
      rw [← hchars.eq_of_no_backslash hinner] at hquote ⊢
      exact ⟨rfl, hquote⟩

def quotedParts (text : Bytes) : List Bytes :=
  text.splitOnP (· == Byte.doubleQuote)

theorem mem_quotedParts {decoded text : Bytes} (h : jsonQuoted decoded <:+: text)
    (hquote : Byte.doubleQuote ∉ decoded) : decoded ∈ quotedParts text := by
  rcases h with ⟨front, back, rfl⟩
  have hne : forall b, b ∈ decoded -> (b == Byte.doubleQuote) = false :=
    fun b hb => beq_eq_false_iff_ne.mpr (ne_of_mem_of_not_mem hb hquote)
  have hshape : front ++ jsonQuoted decoded ++ back =
      front ++ Byte.doubleQuote :: (decoded ++ Byte.doubleQuote :: back) := by
    simp only [jsonQuoted, List.append_assoc, List.cons_append, List.nil_append]
  have hcut : forall left right : Bytes, quotedParts (left ++ Byte.doubleQuote :: right) =
      quotedParts left ++ quotedParts right :=
    fun left right => List.splitOnP_append_cons left right rfl
  have hwhole : quotedParts decoded = [decoded] := List.splitOnP_eq_singleton hne
  rw [hshape, hcut, hcut, hwhole]
  exact List.mem_append_right _ (List.mem_append_left _ (List.mem_singleton.mpr rfl))

theorem JsonText.field_field_quoted {value inner : JsonValue} {name label decoded text : Bytes}
    (h : JsonText value text) (hname : value.field name = some inner)
    (hlabel : inner.field label = some (.string decoded))
    (hne : Byte.backslash ∉ text) : decoded ∈ quotedParts text := by
  rcases h.field_within hname with ⟨object, hobject, houter⟩
  rcases hobject.field_within hlabel with ⟨quoted, hquoted, hinner⟩
  have hwithin := hinner.trans houter
  rcases hquoted.string_within fun hmem => hne (hwithin.subset hmem) with
    ⟨rfl, hquote⟩
  exact mem_quotedParts hwithin hquote

/-!
## Text without control characters
-/

def PlainText (text : Bytes) : Prop :=
  exists chars : List Char,
    text = utf8Bytes chars ∧ forall c, c ∈ chars -> 0x20 ≤ c.toNat

theorem PlainText.append {left right : Bytes} (hleft : PlainText left)
    (hright : PlainText right) : PlainText (left ++ right) := by
  rcases hleft with ⟨leftChars, rfl, hleft⟩
  rcases hright with ⟨rightChars, rfl, hright⟩
  refine ⟨leftChars ++ rightChars, List.flatMap_append.symm, fun c hc => ?_⟩
  rcases List.mem_append.mp hc with hc | hc
  · exact hleft c hc
  · exact hright c hc

theorem plainText_char {c : Char} (h : 0x20 ≤ c.toNat) :
    PlainText (String.utf8EncodeChar c) := by
  refine ⟨[c], (List.append_nil _).symm, fun other hother => ?_⟩
  rw [List.mem_singleton.mp hother]
  exact h

theorem plainText_nil : PlainText [] :=
  ⟨[], rfl, fun _ h => absurd h List.not_mem_nil⟩

theorem utf8EncodeChar_byte {b : Byte} (hlow : 0x20 ≤ b) (hhigh : b < 0x80) :
    String.utf8EncodeChar (Char.ofNat b.toNat) = [b] ∧
      0x20 ≤ (Char.ofNat b.toNat).toNat := by
  revert b
  decide +kernel

theorem plainText_ascii {text : Bytes}
    (h : forall b, b ∈ text -> 0x20 ≤ b ∧ b < 0x80) : PlainText text := by
  induction text with
  | nil => exact plainText_nil
  | cons b text ih =>
      have hb := h b List.mem_cons_self
      have hchar := utf8EncodeChar_byte hb.1 hb.2
      have hplain := plainText_char hchar.2
      rw [hchar.1] at hplain
      exact hplain.append (ih fun other hother => h other (List.mem_cons_of_mem _ hother))

theorem hexUnit_plainText {digits : Bytes} {n : Nat} (h : hexUnit digits = some n) :
    PlainText (Byte.backslash :: 0x75 :: digits) := by
  have hdigit : forall b : Byte, (hexDigitValue b).isSome = true ->
      0x20 ≤ b ∧ b < 0x80 := by
    decide +kernel
  apply plainText_ascii
  intro b hb
  rcases List.mem_cons.mp hb with rfl | hb
  · decide
  · rcases List.mem_cons.mp hb with rfl | hb
    · decide
    · exact hdigit b (hexUnit_digits h b hb)

theorem JsonChars.plainText {decoded text : Bytes} (h : JsonChars decoded text) :
    PlainText text := by
  induction h with
  | nil => exact plainText_nil
  | plain hcontrol hquote hbackslash hrest ih => exact (plainText_char hcontrol).append ih
  | @escape letter b decoded text hescape hrest ih =>
      have hletters : jsonEscapes.all
          (fun entry => decide (0x20 ≤ entry.1 ∧ entry.1 < 0x80)) = true := by
        decide
      have hletter := of_decide_eq_true (List.all_eq_true.mp hletters _ hescape)
      have hplain : PlainText [Byte.backslash, letter] := by
        apply plainText_ascii
        intro other hother
        rcases List.mem_cons.mp hother with rfl | hother
        · decide
        · rw [List.mem_singleton.mp hother]
          exact hletter
      exact hplain.append ih
  | unicode hunit hrest ih => exact (hexUnit_plainText hunit).append ih
  | surrogates hfirst hhigh hsecond hlow hchar hrest ih =>
      exact (hexUnit_plainText hfirst).append ((hexUnit_plainText hsecond).append ih)
  | lone hunit hsurrogate hrest ih => exact (hexUnit_plainText hunit).append ih

/-!
## Text with tabs and line ends
-/

def SafeChar (c : Char) : Prop :=
  0x20 ≤ c.toNat ∨ c = '\t' ∨ c = '\n' ∨ c = '\r'

instance (c : Char) : Decidable (SafeChar c) :=
  inferInstanceAs (Decidable (_ ∨ _))

def SafeText (text : Bytes) : Prop :=
  exists chars, text = utf8Bytes chars ∧ forall c, c ∈ chars -> SafeChar c

theorem safeText_nil : SafeText [] :=
  ⟨[], rfl, fun _ h => absurd h List.not_mem_nil⟩

theorem safeText_char {c : Char} (h : SafeChar c) :
    SafeText (String.utf8EncodeChar c) := by
  refine ⟨[c], (List.append_nil _).symm, fun other hother => ?_⟩
  rw [List.mem_singleton.mp hother]
  exact h

theorem SafeText.append {left right : Bytes} (hleft : SafeText left)
    (hright : SafeText right) : SafeText (left ++ right) := by
  rcases hleft with ⟨leftChars, rfl, hleft⟩
  rcases hright with ⟨rightChars, rfl, hright⟩
  refine ⟨leftChars ++ rightChars, List.flatMap_append.symm, fun c hc => ?_⟩
  rcases List.mem_append.mp hc with hc | hc
  · exact hleft c hc
  · exact hright c hc

theorem PlainText.safeText {text : Bytes} (h : PlainText text) : SafeText text := by
  rcases h with ⟨chars, htext, hplain⟩
  exact ⟨chars, htext, fun c hc => .inl (hplain c hc)⟩

theorem utf8EncodeChar_below {b : Byte} (h : b < 0x80) :
    String.utf8EncodeChar (Char.ofNat b.toNat) = [b] := by
  revert b
  decide +kernel

theorem safeText_ascii {b : Byte} (hascii : b < 0x80)
    (h : SafeChar (Char.ofNat b.toNat)) : SafeText [b] := by
  have hsafe := safeText_char h
  rwa [utf8EncodeChar_below hascii] at hsafe

theorem ascii_all {text : Bytes} (h : text.all (fun b => decide (b < 0x80)) = true) :
    forall b, b ∈ text -> b < 0x80 :=
  fun b hb => of_decide_eq_true (List.all_eq_true.mp h b hb)

theorem safeText_all {text : Bytes}
    (h : text.all (fun b => decide (0x20 ≤ b ∧ b < 0x80)) = true) : SafeText text :=
  (plainText_ascii fun b hb => of_decide_eq_true (List.all_eq_true.mp h b hb)).safeText

theorem JsonBlank.safeText {text : Bytes} (h : JsonBlank text) : SafeText text := by
  induction text with
  | nil => exact safeText_nil
  | cons b text ih =>
      have hblank : SafeText [b] := by
        rcases h b List.mem_cons_self with rfl | rfl | rfl | rfl <;>
          exact safeText_ascii (by decide) (by decide)
      exact hblank.append (ih fun other hother => h other (List.mem_cons_of_mem _ hother))

theorem JsonMark.safeText {b : Byte} {text : Bytes} (hlow : 0x20 ≤ b) (hhigh : b < 0x80)
    (h : JsonMark b text) : SafeText text := by
  cases h with
  | blanks hleft hright =>
      have hchar := utf8EncodeChar_byte hlow hhigh
      exact hleft.safeText.append
        ((safeText_ascii hhigh (.inl hchar.2)).append hright.safeText)

theorem jsonQuoted_safeText {text : Bytes} (h : SafeText text) :
    SafeText (jsonQuoted text) := by
  have hquote : SafeText [Byte.doubleQuote] := safeText_ascii (by decide) (by decide)
  exact hquote.append (h.append hquote)

theorem isDigit_printable {b : Byte} (h : isDigit b = true) : 0x20 ≤ b ∧ b < 0x80 := by
  revert b
  decide +kernel

theorem JsonNumber.safeText {text : Bytes} (h : JsonNumber text) : SafeText text := by
  have hmarks : numberMarks.all (fun b => decide (0x20 ≤ b ∧ b < 0x80)) = true := by
    decide
  apply PlainText.safeText
  apply plainText_ascii
  intro b hb
  rcases h.bytes hb with hb | hb
  · exact isDigit_printable hb
  · exact of_decide_eq_true (List.all_eq_true.mp hmarks b hb)

mutual

theorem JsonWritten.safeText {value : JsonValue} {text : Bytes} :
    JsonWritten value text -> SafeText text
  | .null => safeText_all (by decide)
  | .false => safeText_all (by decide)
  | .true => safeText_all (by decide)
  | .number hnumber => hnumber.safeText
  | .string hchars => jsonQuoted_safeText hchars.plainText.safeText
  | .array hleft hitems hright =>
      ((hleft.safeText (by decide) (by decide)).append hitems.safeText).append
        (hright.safeText (by decide) (by decide))
  | .object hleft hmembers hright =>
      ((hleft.safeText (by decide) (by decide)).append hmembers.safeText).append
        (hright.safeText (by decide) (by decide))

theorem JsonItems.safeText {items : List JsonValue} {text : Bytes} :
    JsonItems items text -> SafeText text
  | .none => safeText_nil
  | .last hvalue => hvalue.safeText
  | .cons hvalue hcomma hmore =>
      (hvalue.safeText.append (hcomma.safeText (by decide) (by decide))).append
        hmore.safeText

theorem JsonMembers.safeText {members : List (Bytes × JsonValue)} {text : Bytes} :
    JsonMembers members text -> SafeText text
  | .none => safeText_nil
  | .last hname hcolon hvalue =>
      ((jsonQuoted_safeText hname.plainText.safeText).append
        (hcolon.safeText (by decide) (by decide))).append hvalue.safeText
  | .cons hname hcolon hvalue hcomma hmore =>
      ((((jsonQuoted_safeText hname.plainText.safeText).append
        (hcolon.safeText (by decide) (by decide))).append hvalue.safeText).append
          (hcomma.safeText (by decide) (by decide))).append hmore.safeText

end

theorem JsonText.safeText {value : JsonValue} {text : Bytes}
    (h : JsonText value text) : SafeText text := by
  cases h with
  | blanks hleft hvalue hright =>
      exact (hleft.safeText.append hvalue.safeText).append hright.safeText

theorem utf8Bytes_cut {chars : List Char} {left right : Bytes} {b : Byte}
    (hascii : b < 0x80) (h : utf8Bytes chars = left ++ b :: right) :
    exists front back, chars = front ++ Char.ofNat b.toNat :: back ∧
      left = utf8Bytes front ∧ right = utf8Bytes back := by
  induction chars generalizing left with
  | nil => exact absurd h.symm (by simp [utf8Bytes])
  | cons c chars ih =>
      have hstep : forall rest, utf8Bytes chars = rest ++ b :: right ->
          exists front back, c :: chars = front ++ Char.ofNat b.toNat :: back ∧
            String.utf8EncodeChar c ++ rest = utf8Bytes front ∧
              right = utf8Bytes back := by
        intro rest hrest
        rcases ih hrest with ⟨front, back, rfl, rfl, hright⟩
        exact ⟨c :: front, back, rfl, rfl, hright⟩
      have hsplit : String.utf8EncodeChar c ++ utf8Bytes chars = left ++ b :: right := h
      rcases List.append_eq_append_iff.mp hsplit with
        ⟨rest, rfl, hrest⟩ | ⟨rest, hchar, hrest⟩
      · exact hstep rest hrest
      · cases rest with
        | nil =>
            rw [List.append_nil] at hchar
            rw [← hchar, ← List.append_nil (String.utf8EncodeChar c)]
            exact hstep [] hrest.symm
        | cons first rest =>
            rw [List.cons_append, List.cons.injEq] at hrest
            rcases hrest with ⟨rfl, rfl⟩
            have hmem : b ∈ String.utf8EncodeChar c := by
              rw [hchar]
              exact List.mem_append_right _ List.mem_cons_self
            have hc := utf8EncodeChar_ascii hascii hmem
            have hbytes : String.utf8EncodeChar c = [b] := by
              rw [hc]
              exact utf8EncodeChar_below hascii
            rw [hbytes, List.singleton_eq_append_iff] at hchar
            rcases hchar with ⟨rfl, hrest⟩ | ⟨_, hrest⟩
            · rw [List.cons.injEq] at hrest
              exact ⟨[], chars, by rw [hc]; rfl, rfl, by rw [hrest.2]; rfl⟩
            · cases hrest

theorem SafeText.cut {left right : Bytes} {b : Byte} (hascii : b < 0x80)
    (h : SafeText (left ++ b :: right)) :
    SafeText left ∧ SafeChar (Char.ofNat b.toNat) ∧ SafeText right := by
  rcases h with ⟨chars, htext, hsafe⟩
  rcases utf8Bytes_cut hascii htext.symm with ⟨front, back, rfl, rfl, rfl⟩
  refine ⟨⟨front, rfl, fun c hc => hsafe c (List.mem_append_left _ hc)⟩,
    hsafe _ (List.mem_append_right _ List.mem_cons_self),
    ⟨back, rfl, fun c hc =>
      hsafe c (List.mem_append_right _ (List.mem_cons_of_mem _ hc))⟩⟩

theorem SafeText.drop_ascii {left right : Bytes} (hascii : forall b, b ∈ left -> b < 0x80)
    (h : SafeText (left ++ right)) : SafeText right := by
  induction left with
  | nil => exact h
  | cons b left ih =>
      have hcut : SafeText ([] ++ b :: (left ++ right)) := h
      exact ih (fun other hother => hascii other (List.mem_cons_of_mem _ hother))
        (hcut.cut (hascii b List.mem_cons_self)).2.2

/-!
## Texts without blanks
-/

theorem jsonBlank_nil : JsonBlank [] :=
  fun _ h => absurd h List.not_mem_nil

theorem jsonMark_single (b : Byte) : JsonMark b [b] :=
  @JsonMark.blanks b [] [] jsonBlank_nil jsonBlank_nil

theorem JsonWritten.jsonText {value : JsonValue} {text : Bytes}
    (h : JsonWritten value text) : JsonText value text := by
  have htext := @JsonText.blanks value [] text [] jsonBlank_nil h jsonBlank_nil
  rwa [List.nil_append, List.append_nil] at htext

def jsonMember (label text : Bytes) : Bytes :=
  jsonQuoted label ++ [0x3A] ++ text

theorem JsonMembers.last_tight {name label text : Bytes} {value : JsonValue}
    (hname : JsonChars name label) (hvalue : JsonWritten value text) :
    JsonMembers [(name, value)] (jsonMember label text) :=
  .last hname (jsonMark_single _) hvalue

theorem JsonMembers.cons_tight {name label text rest : Bytes} {value : JsonValue}
    {next : Bytes × JsonValue} {more : List (Bytes × JsonValue)}
    (hname : JsonChars name label) (hvalue : JsonWritten value text)
    (hmore : JsonMembers (next :: more) rest) :
    JsonMembers ((name, value) :: next :: more)
      (jsonMember label text ++ [0x2C] ++ rest) :=
  .cons hname (jsonMark_single _) hvalue (jsonMark_single _) hmore

theorem JsonWritten.object_tight {members : List (Bytes × JsonValue)}
    {text : Bytes} (hmembers : JsonMembers members text) :
    JsonWritten (.object members) ([0x7B] ++ text ++ [0x7D]) :=
  .object (jsonMark_single _) hmembers (jsonMark_single _)

def isPlainByte (b : Byte) : Bool :=
  0x20 ≤ b && b < 0x7F && b != Byte.doubleQuote && b != Byte.backslash

theorem utf8EncodeChar_ofNat {b : Byte} (h : isPlainByte b = true) :
    String.utf8EncodeChar (Char.ofNat b.toNat) = [b] ∧
      0x20 ≤ (Char.ofNat b.toNat).toNat ∧ Char.ofNat b.toNat ≠ '"' ∧
        Char.ofNat b.toNat ≠ '\\' := by
  revert b
  decide +kernel

theorem jsonChars_plain {text : Bytes} (h : text.all isPlainByte = true) :
    JsonChars text text := by
  induction text with
  | nil => exact .nil
  | cons b text ih =>
      rw [List.all_cons, Bool.and_eq_true] at h
      have hencode := utf8EncodeChar_ofNat h.1
      have hchars := JsonChars.plain hencode.2.1 hencode.2.2.1 hencode.2.2.2 (ih h.2)
      rw [hencode.1] at hchars
      exact hchars

/-!
## Numbers of C
-/

theorem decimalNat_jsonInt (n : Nat) : JsonInt (decimalNat n) := by
  rcases Nat.eq_zero_or_pos n with rfl | hpos
  · exact .zero
  · rcases decimalNat_pos n hpos with ⟨b, rest, htext, hdigit, hne, hrest⟩
    rw [htext]
    exact .digits hdigit hne hrest

theorem decimalNat_jsonNumber (n : Nat) : JsonNumber (decimalNat n) := by
  have hnumber := JsonNumber.parts (.inl rfl) (decimalNat_jsonInt n)
    JsonFraction.absent JsonExponent.absent
  rwa [List.nil_append, List.append_nil, List.append_nil] at hnumber

end Foundation
end SqlCsvServer
