import Mathlib.Data.List.Infix
import SqlCsvServer.Api.QueryHandler
import SqlCsvServer.Execution.IndexRun
import SqlCsvServer.Foundation.Json

/-!
# The body of a response is JSON

`http_json_escape` works byte by byte.  On a text in UTF-8 whose only control
characters are tabs and line ends it yields the inside of a JSON string that
stands for this text.
-/

namespace SqlCsvServer
namespace Api

open Foundation Common Sql Execution Engine Http

/-!
## Escaped text
-/

theorem jsonEscapeByte_beyond {b : Byte} (h : 0x80 ≤ b) :
    jsonEscapeByte b = [b] := by
  revert b
  decide +kernel

theorem httpJsonEscape_append (left right : Bytes) :
    httpJsonEscape (left ++ right) = httpJsonEscape left ++ httpJsonEscape right :=
  List.flatMap_append

theorem httpJsonEscape_char {c : Char} (hbackslash : c ≠ '\\') (hquote : c ≠ '"')
    (hfeed : c ≠ '\n') (hreturn : c ≠ '\r') (htab : c ≠ '\t') :
    httpJsonEscape (String.utf8EncodeChar c) = String.utf8EncodeChar c := by
  have hbytes : forall b, b ∈ String.utf8EncodeChar c -> jsonEscapeByte b = [b] := by
    intro b hb
    rcases Nat.lt_or_ge 0x7F c.toNat with hbeyond | hascii
    · exact jsonEscapeByte_beyond (utf8EncodeChar_beyond hbeyond hb)
    · have hsingle : String.utf8EncodeChar c = [UInt8.ofNat c.toNat] := if_pos hascii
      rw [hsingle, List.mem_singleton] at hb
      have hne : forall {other : Char} {code : Byte}, c ≠ other ->
          other.toNat = code.toNat -> b ≠ code := by
        intro other code hother hcode hsame
        apply hother
        apply Char.toNat_inj.mp
        rw [hcode, ← hsame, hb, UInt8.toNat_ofNat', Nat.mod_eq_of_lt]
        omega
      unfold jsonEscapeByte
      rw [if_neg (hne hbackslash rfl), if_neg (hne hquote rfl),
        if_neg (hne hfeed rfl), if_neg (hne hreturn rfl), if_neg (hne htab rfl)]
  unfold httpJsonEscape
  rw [List.flatMap_congr hbytes]
  exact List.flatMap_singleton' _

theorem jsonChars_char {c : Char} (h : SafeChar c) {decoded text : Bytes}
    (hrest : JsonChars decoded text) :
    JsonChars (String.utf8EncodeChar c ++ decoded)
      (httpJsonEscape (String.utf8EncodeChar c) ++ text) := by
  by_cases hbackslash : c = '\\'
  · subst hbackslash
    exact @JsonChars.escape 0x5C 0x5C _ _ (by decide) hrest
  · by_cases hquote : c = '"'
    · subst hquote
      exact @JsonChars.escape 0x22 0x22 _ _ (by decide) hrest
    · by_cases hfeed : c = '\n'
      · subst hfeed
        exact @JsonChars.escape 0x6E 0x0A _ _ (by decide) hrest
      · by_cases hreturn : c = '\r'
        · subst hreturn
          exact @JsonChars.escape 0x72 0x0D _ _ (by decide) hrest
        · by_cases htab : c = '\t'
          · subst htab
            exact @JsonChars.escape 0x74 0x09 _ _ (by decide) hrest
          · rw [httpJsonEscape_char hbackslash hquote hfeed hreturn htab]
            rcases h with hcontrol | hcontrol | hcontrol | hcontrol
            · exact .plain hcontrol hquote hbackslash hrest
            · exact absurd hcontrol htab
            · exact absurd hcontrol hfeed
            · exact absurd hcontrol hreturn

theorem jsonChars_escaped {text : Bytes} (h : SafeText text) :
    JsonChars text (httpJsonEscape text) := by
  rcases h with ⟨chars, rfl, hsafe⟩
  unfold utf8Bytes
  induction chars with
  | nil => exact .nil
  | cons c chars ih =>
      rw [List.flatMap_cons, httpJsonEscape_append]
      exact jsonChars_char (hsafe c List.mem_cons_self)
        (ih fun other hother => hsafe other (List.mem_cons_of_mem c hother))

theorem jsonEscapeByte_ascii {b : Byte} (h : b < 0x80) :
    (forall other, other ∈ jsonEscapeByte b -> other < 0x80) ∧
      (jsonEscapeByte b = [b] ∨ SafeChar (Char.ofNat b.toNat)) := by
  have hall : forall b : Byte, b < 0x80 ->
      (jsonEscapeByte b).all (fun other => decide (other < 0x80)) = true ∧
        (jsonEscapeByte b = [b] ∨ SafeChar (Char.ofNat b.toNat)) := by
    decide +kernel
  exact ⟨ascii_all (hall b h).1, (hall b h).2⟩

theorem httpJsonEscape_beyond {front rest text : Bytes}
    (hfront : forall b, b ∈ front -> 0x80 ≤ b)
    (h : httpJsonEscape text = front ++ rest) :
    exists remaining, text = front ++ remaining ∧ httpJsonEscape remaining = rest := by
  induction front generalizing text with
  | nil => exact ⟨text, rfl, h⟩
  | cons b front ih =>
      have hb := hfront b List.mem_cons_self
      cases text with
      | nil => exact absurd h (by simp [httpJsonEscape])
      | cons first text =>
          have hsplit : jsonEscapeByte first ++ httpJsonEscape text = b :: (front ++ rest) := h
          rcases Nat.lt_or_ge first.toNat 0x80 with hascii | hbeyond
          · have hfirst := (jsonEscapeByte_ascii (UInt8.lt_iff_toNat_lt.mpr hascii)).1
            have hne : jsonEscapeByte first ≠ [] := by
              have hall : forall other : Byte, jsonEscapeByte other ≠ [] := by
                decide +kernel
              exact hall first
            rcases List.exists_cons_of_ne_nil hne with ⟨head, tail, hcons⟩
            rw [hcons, List.cons_append, List.cons.injEq] at hsplit
            have hhead := hfirst head (by rw [hcons]; exact List.mem_cons_self)
            rw [hsplit.1] at hhead
            exact absurd hb (UInt8.not_le.mpr hhead)
          · rw [jsonEscapeByte_beyond (UInt8.le_iff_toNat_le.mpr hbeyond),
              List.singleton_append, List.cons.injEq] at hsplit
            rcases hsplit with ⟨rfl, hrest⟩
            rcases ih (fun other hother => hfront other (List.mem_cons_of_mem _ hother))
              hrest with ⟨remaining, rfl, hremaining⟩
            exact ⟨remaining, rfl, hremaining⟩

theorem safeText_of_escaped (text : Bytes) (h : SafeText (httpJsonEscape text)) :
    SafeText text := by
  cases text with
  | nil => exact safeText_nil
  | cons b text =>
      rcases Nat.lt_or_ge b.toNat 0x80 with hascii | hbeyond
      · have hb : b < 0x80 := UInt8.lt_iff_toNat_lt.mpr hascii
        have hsplit : SafeText (jsonEscapeByte b ++ httpJsonEscape text) := h
        have hchar : SafeChar (Char.ofNat b.toNat) := by
          rcases (jsonEscapeByte_ascii hb).2 with hsame | hsafe
          · rw [hsame] at hsplit
            have hcut : SafeText ([] ++ b :: httpJsonEscape text) := hsplit
            exact (hcut.cut hb).2.1
          · exact hsafe
        exact (safeText_ascii hb hchar).append
          (safeText_of_escaped text (hsplit.drop_ascii (jsonEscapeByte_ascii hb).1))
      · have hb : 0x80 ≤ b := UInt8.le_iff_toNat_le.mpr hbeyond
        rcases h with ⟨chars, htext, hsafe⟩
        have hescape : httpJsonEscape (b :: text) = b :: httpJsonEscape text := by
          have happend := httpJsonEscape_append [b] text
          rwa [show httpJsonEscape [b] = [b] from by
            rw [httpJsonEscape, List.flatMap_singleton, jsonEscapeByte_beyond hb]] at happend
        cases chars with
        | nil => exact absurd htext (by rw [hescape]; exact List.cons_ne_nil _ _)
        | cons c chars =>
            have hfront : httpJsonEscape (b :: text) =
                String.utf8EncodeChar c ++ utf8Bytes chars := htext
            have hbytes : forall other, other ∈ String.utf8EncodeChar c -> 0x80 ≤ other := by
              rcases Nat.lt_or_ge 0x7F c.toNat with hwide | hnarrow
              · exact fun other hother => utf8EncodeChar_beyond hwide hother
              · -- such a character is one byte below 0x80, but the first byte is b
                have hsingle : String.utf8EncodeChar c = [UInt8.ofNat c.toNat] :=
                  if_pos hnarrow
                rw [hescape, hsingle, List.singleton_append, List.cons.injEq] at hfront
                rw [hsingle, ← hfront.1]
                intro other hother
                rw [List.mem_singleton.mp hother]
                exact hb
            rcases httpJsonEscape_beyond hbytes hfront with ⟨remaining, hcons, hrest⟩
            have hshorter : remaining.length < (b :: text).length := by
              have hpos := String.length_utf8EncodeChar c
              have hsize := Char.utf8Size_pos c
              rw [hcons, List.length_append]
              omega
            rw [hcons]
            exact (safeText_char (hsafe c List.mem_cons_self)).append
              (safeText_of_escaped remaining
                ⟨chars, hrest, fun other hother =>
                  hsafe other (List.mem_cons_of_mem c hother)⟩)
termination_by text.length

/-!
## The two bodies
-/

theorem decimalThousandths_jsonNumber (n : Int) :
    JsonNumber (decimalThousandths n) := by
  have hsign : (if n < 0 then ascii "-" else []) = [] ∨
      (if n < 0 then ascii "-" else []) = [0x2D] := by
    by_cases hneg : n < 0
    · rw [if_pos hneg]
      exact .inr rfl
    · rw [if_neg hneg]
      exact .inl rfl
  have hne : decimalNat (n.natAbs / 100 % 10) ++
      (decimalNat (n.natAbs / 10 % 10) ++ decimalNat (n.natAbs % 10)) ≠ [] :=
    List.append_ne_nil_of_left_ne_nil (decimalNat_ne_nil _) _
  have hnumber := JsonNumber.parts hsign (decimalNat_jsonInt (n.natAbs / 1000))
    (JsonFraction.digits hne (by
      intro d hd
      rcases List.mem_append.mp hd with hd | hd
      · exact decimalNat_digits _ d hd
      · rcases List.mem_append.mp hd with hd | hd
        · exact decimalNat_digits _ d hd
        · exact decimalNat_digits _ d hd))
    JsonExponent.absent
  have hpoint : ascii "." = [0x2E] := rfl
  unfold decimalThousandths
  rw [hpoint]
  simpa only [List.append_assoc, List.append_nil, List.cons_append,
    List.nil_append] using hnumber

def errorValue (code : SqlEngineErrorCode) (text : Bytes) : JsonValue :=
  .object
    [(ascii "ok", .bool false),
      (ascii "error",
        .object
          [(ascii "code", .string (sqlEngineErrorCodeName code)),
            (ascii "message", .string text)])]

def successValue (result : SqlEngineAdapterResult) : JsonValue :=
  .object
    [(ascii "ok", .bool true),
      (ascii "statement_type", .string result.statementType),
      (ascii "affected_rows", .number (decimalNat result.affectedRows)),
      (ascii "summary", .string result.summary),
      (ascii "output", .string (result.output.getD [])),
      (ascii "elapsed_ms", .number (decimalThousandths result.elapsedMs)),
      (ascii "wall_elapsed_ms",
        .number (decimalThousandths result.wallElapsedMs))]

theorem errorBody_jsonText (code : SqlEngineErrorCode) {text : Bytes}
    (h : SafeText text) :
    JsonText (errorValue code text) (errorBody code (httpJsonEscape text)) := by
  have hcode : (sqlEngineErrorCodeName code).all isPlainByte = true := by
    cases code <;> decide
  have hinner := JsonWritten.object_tight
    (JsonMembers.cons_tight (@jsonChars_plain (ascii "code") (by decide))
      (.string (jsonChars_plain hcode))
      (JsonMembers.last_tight (@jsonChars_plain (ascii "message") (by decide))
        (.string (jsonChars_escaped h))))
  have houter := (JsonWritten.object_tight
    (JsonMembers.cons_tight (@jsonChars_plain (ascii "ok") (by decide)) .false
      (JsonMembers.last_tight (@jsonChars_plain (ascii "error") (by decide))
        hinner))).jsonText
  have hfront : ascii "\x7b\"ok\":false,\"error\":\x7b\"code\":\"" =
      [0x7B] ++ jsonMember (ascii "ok") (ascii "false") ++ [0x2C] ++
        jsonQuoted (ascii "error") ++ [0x3A, 0x7B] ++
          jsonQuoted (ascii "code") ++ [0x3A, Byte.doubleQuote] := by
    decide
  have hmiddle : ascii "\",\"message\":\"" =
      [Byte.doubleQuote, 0x2C] ++ jsonQuoted (ascii "message") ++
        [0x3A, Byte.doubleQuote] := by
    decide
  have hend : ascii "\"\x7d\x7d" = [Byte.doubleQuote, 0x7D, 0x7D] := by
    decide
  unfold errorBody
  rw [hfront, hmiddle, hend]
  simpa only [errorValue, jsonMember, jsonQuoted, List.append_assoc,
    List.cons_append, List.nil_append] using houter

theorem successBody_jsonText {result : SqlEngineAdapterResult}
    (htype : result.statementType.all isPlainByte = true)
    (hsummary : SafeText result.summary)
    (houtput : SafeText (result.output.getD [])) :
    JsonText (successValue result)
      (buildSuccessBody result (httpJsonEscape result.summary)
        (httpJsonEscape (result.output.getD []))) := by
  have hbody := (JsonWritten.object_tight
    (JsonMembers.cons_tight (@jsonChars_plain (ascii "ok") (by decide)) .true
    (JsonMembers.cons_tight (@jsonChars_plain (ascii "statement_type") (by decide))
      (.string (jsonChars_plain htype))
    (JsonMembers.cons_tight (@jsonChars_plain (ascii "affected_rows") (by decide))
      (.number (decimalNat_jsonNumber result.affectedRows))
    (JsonMembers.cons_tight (@jsonChars_plain (ascii "summary") (by decide))
      (.string (jsonChars_escaped hsummary))
    (JsonMembers.cons_tight (@jsonChars_plain (ascii "output") (by decide))
      (.string (jsonChars_escaped houtput))
    (JsonMembers.cons_tight (@jsonChars_plain (ascii "elapsed_ms") (by decide))
      (.number (decimalThousandths_jsonNumber result.elapsedMs))
    (JsonMembers.last_tight (@jsonChars_plain (ascii "wall_elapsed_ms") (by decide))
      (.number (decimalThousandths_jsonNumber result.wallElapsedMs)))))))))).jsonText
  have htypeName : ascii "\x7b\"ok\":true,\"statement_type\":\"" =
      [0x7B] ++ jsonMember (ascii "ok") (ascii "true") ++ [0x2C] ++
        jsonQuoted (ascii "statement_type") ++ [0x3A, Byte.doubleQuote] := by
    decide
  have hrows : ascii "\",\"affected_rows\":" =
      [Byte.doubleQuote, 0x2C] ++ jsonQuoted (ascii "affected_rows") ++ [0x3A] := by
    decide
  have hsummaryName : ascii ",\"summary\":\"" =
      [0x2C] ++ jsonQuoted (ascii "summary") ++ [0x3A, Byte.doubleQuote] := by
    decide
  have houtputName : ascii "\",\"output\":\"" =
      [Byte.doubleQuote, 0x2C] ++ jsonQuoted (ascii "output") ++
        [0x3A, Byte.doubleQuote] := by
    decide
  have helapsed : ascii "\",\"elapsed_ms\":" =
      [Byte.doubleQuote, 0x2C] ++ jsonQuoted (ascii "elapsed_ms") ++ [0x3A] := by
    decide
  have hwall : ascii ",\"wall_elapsed_ms\":" =
      [0x2C] ++ jsonQuoted (ascii "wall_elapsed_ms") ++ [0x3A] := by
    decide
  have hend : ascii "\x7d" = [0x7D] := rfl
  unfold buildSuccessBody
  rw [htypeName, hrows, hsummaryName, houtputName, helapsed, hwall, hend]
  simpa only [successValue, jsonMember, jsonQuoted, List.append_assoc,
    List.cons_append, List.nil_append] using hbody

/-!
## Every answer
-/

theorem prepareSql_not_ok {config : SqlEngineAdapterConfig}
    {environment : CallEnvironment} {sql : Option Bytes}
    {result : SqlEngineAdapterResult}
    (h : prepareSql config environment sql = .error result) :
    result.ok = false := by
  unfold prepareSql at h
  cases sql with
  | none =>
      cases h
      rfl
  | some sql =>
      simp only at h
      split at h
      · cases h
        rfl
      · split at h
        · cases h
          rfl
        · split at h
          · cases h
            rfl
          · split at h
            · cases h
              rfl
            · cases h

theorem executedResult_type {statement : Statement}
    {environment : CallEnvironment} {executed : ExecResult}
    {printed : Bytes}
    (hok : (executedResult statement environment executed printed).ok = true) :
    (executedResult statement environment executed printed).statementType.all
      isPlainByte = true := by
  have hinsert : (snprintf 16 (ascii "insert")).all isPlainByte = true := by
    decide
  have hselect : (snprintf 16 (ascii "select")).all isPlainByte = true := by
    decide
  unfold executedResult at hok ⊢
  by_cases hexecuted : executed.ok = true
  · simp only [hexecuted, if_true] at hok ⊢
    cases statement with
    | insertStatement statement => exact hinsert
    | selectStatement statement =>
        cases hcapture : environment.captureError with
        | none => exact hselect
        | some text =>
            rw [hcapture] at hok
            cases hok
  · rw [if_neg hexecuted] at hok
    cases hok

theorem sqlEngineAdapterExecute_type {config : SqlEngineAdapterConfig}
    {environment : CallEnvironment} {acquireError : Option Bytes}
    {sql : Option Bytes} {world : World}
    (hok : (sqlEngineAdapterExecute config environment acquireError sql
      world).2.ok = true) :
    (sqlEngineAdapterExecute config environment acquireError sql
      world).2.statementType.all isPlainByte = true := by
  unfold sqlEngineAdapterExecute at hok ⊢
  cases hprepare : prepareSql config environment sql with
  | error result =>
      rw [hprepare] at hok
      rw [prepareSql_not_ok hprepare] at hok
      cases hok
  | ok statement =>
      simp only [hprepare] at hok ⊢
      cases hschema : Storage.loadSchema config.schemaDir world.engine.dataDir
          (statementTableName statement) with
      | error text =>
          rw [hschema] at hok
          cases hok
      | ok schema =>
          simp only [hschema] at hok ⊢
          cases acquireError with
          | some text => cases hok
          | none =>
              simp only [adapterBody] at hok ⊢
              split
              · rename_i hforced
                rw [if_pos hforced] at hok
                cases hok
              · rename_i hforced
                rw [if_neg hforced] at hok
                split
                · rename_i htmpfile
                  rw [if_pos htmpfile] at hok
                  cases hok
                · rename_i htmpfile
                  rw [if_neg htmpfile] at hok
                  exact executedResult_type hok

theorem buildUserErrorMessage_length (code : SqlEngineErrorCode)
    (original : Bytes) : (buildUserErrorMessage code original).length < 256 := by
  unfold buildUserErrorMessage snprintf userMessageSize
  rw [List.length_take]
  exact Nat.lt_succ_of_le (Nat.min_le_left _ _)

/-- The result of the engine for a request that gets as far as the engine. -/
def queryResult (config : SqlEngineAdapterConfig) (environment : CallEnvironment)
    (acquireError : Option Bytes) (request : HttpRequest) (world : World) :
    Option SqlEngineAdapterResult :=
  match querySql request with
  | .error _ => none
  | .ok sql =>
      some (sqlEngineAdapterExecute config environment acquireError (some sql)
        world).2

/-- The strings of a result that `http_json_escape` is called on are safe. -/
def SafeResult (result : SqlEngineAdapterResult) : Prop :=
  if result.ok then
    SafeText result.summary ∧ SafeText (result.output.getD [])
  else SafeText (buildUserErrorMessage result.errorCode result.errorMessage)

/-- The fields of an answer hold the data of a result. -/
def Carries (value : JsonValue) (result : SqlEngineAdapterResult) : Prop :=
  value.field (ascii "ok") = some (.bool result.ok) ∧
    if result.ok then
      value.field (ascii "statement_type") = some (.string result.statementType) ∧
        value.field (ascii "affected_rows") =
            some (.number (decimalNat result.affectedRows)) ∧
          value.field (ascii "output") = some (.string (result.output.getD [])) ∧
            value.field (ascii "summary") = some (.string result.summary)
    else
      exists error, value.field (ascii "error") = some error ∧
        error.field (ascii "code") =
            some (.string (sqlEngineErrorCodeName result.errorCode)) ∧
          error.field (ascii "message") =
            some (.string
              (buildUserErrorMessage result.errorCode result.errorMessage))

theorem safeText_plain {text : Bytes} (h : text.all isPlainByte = true) :
    SafeText text := by
  refine ⟨text.map fun b => Char.ofNat b.toNat, ?_, ?_⟩
  · unfold utf8Bytes
    induction text with
    | nil => rfl
    | cons b text ih =>
        rw [List.all_cons, Bool.and_eq_true] at h
        rw [List.map_cons, List.flatMap_cons, (utf8EncodeChar_ofNat h.1).1,
          ← ih h.2]
        rfl
  · intro c hc
    rcases List.mem_map.mp hc with ⟨b, hb, rfl⟩
    exact .inl (utf8EncodeChar_ofNat (List.all_eq_true.mp h b hb)).2.1

theorem querySql_error {request : HttpRequest} {code : SqlEngineErrorCode}
    {text : Bytes} (h : querySql request = .error (code, text)) :
    text.all isPlainByte = true ∧ text.length < 256 := by
  unfold querySql at h
  split at h
  · cases h
    decide
  · split at h
    · cases h
      decide
    · split at h
      · cases h
        decide
      · cases h
        decide
      · cases h

theorem resultResponse_json {result : SqlEngineAdapterResult}
    (htype : result.ok = true -> result.statementType.all isPlainByte = true)
    (hsafe : SafeResult result) :
    exists response value, resultResponse result = some response ∧
      JsonText value response.body ∧ Carries value result := by
  unfold resultResponse
  unfold SafeResult at hsafe
  unfold Carries
  by_cases hok : result.ok = true
  · simp only [hok, if_true] at hsafe ⊢
    exact ⟨_, _, rfl, successBody_jsonText (htype hok) hsafe.1 hsafe.2, rfl, rfl, rfl, rfl,
      rfl⟩
  · simp only [hok] at hsafe ⊢
    exact ⟨_, _, httpResponseSetError_fits _ (buildUserErrorMessage_length _ _),
      errorBody_jsonText result.errorCode hsafe, rfl, _, rfl, rfl, rfl⟩

/-!
## Answers with the strings of the engine
-/

def HoldsStrings (value : JsonValue) (result : SqlEngineAdapterResult) : Prop :=
  if result.ok then
    value.field (ascii "output") = some (.string (result.output.getD [])) ∧
      value.field (ascii "summary") = some (.string result.summary)
  else
    exists error, value.field (ascii "error") = some error ∧
      error.field (ascii "message") = some (.string result.errorMessage)

/-- The answer is a JSON text with the strings of the engine, if the engine is reached. -/
def AnswersFaithfully (config : SqlEngineAdapterConfig) (environment : CallEnvironment)
    (acquireError : Option Bytes) (request : HttpRequest) (world : World) : Prop :=
  exists response value,
    (apiHandleQuery config environment acquireError request world).2 = some response ∧
      JsonText value response.body ∧
        forall result,
          queryResult config environment acquireError request world = some result ->
            HoldsStrings value result

/--
The strings of a result are UTF-8 without control characters other than tabs and line
ends, and `build_user_error_message` has no other text for its error.
-/
def ComesThrough (result : SqlEngineAdapterResult) : Prop :=
  if result.ok then
    SafeText result.summary ∧ SafeText (result.output.getD [])
  else
    SafeText result.errorMessage ∧
      userErrorText result.errorCode result.errorMessage = result.errorMessage

theorem buildUserErrorMessage_same {code : SqlEngineErrorCode} {original : Bytes}
    (hlength : original.length < 256) (h : userErrorText code original = original) :
    buildUserErrorMessage code original = original := by
  unfold buildUserErrorMessage snprintf userMessageSize
  rw [h, List.take_of_length_le (Nat.le_of_lt_succ hlength)]

theorem setError_length (result : SqlEngineAdapterResult) (code : SqlEngineErrorCode)
    (text : Bytes) : (setError result code text).errorMessage.length < 256 := by
  unfold setError message snprintf messageSize
  rw [List.length_take]
  exact Nat.lt_succ_of_le (Nat.min_le_left _ _)

theorem prepareSql_length {config : SqlEngineAdapterConfig}
    {environment : CallEnvironment} {sql : Option Bytes}
    {result : SqlEngineAdapterResult}
    (h : prepareSql config environment sql = .error result) :
    result.errorMessage.length < 256 := by
  unfold prepareSql at h
  cases sql with
  | none =>
      cases h
      exact setError_length _ _ _
  | some sql =>
      simp only at h
      split at h
      · cases h
        exact setError_length _ _ _
      · split at h
        · cases h
          exact setError_length _ _ _
        · split at h
          · cases h
            exact setError_length _ _ _
          · split at h
            · cases h
              exact setError_length _ _ _
            · cases h

theorem executedResult_length (statement : Statement) (environment : CallEnvironment)
    (executed : ExecResult) (printed : Bytes) :
    (executedResult statement environment executed printed).errorMessage.length < 256 := by
  have hempty : zeroResult.errorMessage.length < 256 := by decide
  unfold executedResult
  split
  · cases statement with
    | insertStatement statement => exact hempty
    | selectStatement statement =>
        cases environment.captureError with
        | none => exact hempty
        | some text => exact setError_length _ _ _
  · exact setError_length _ _ _

theorem sqlEngineAdapterExecute_length (config : SqlEngineAdapterConfig)
    (environment : CallEnvironment) (acquireError : Option Bytes)
    (sql : Option Bytes) (world : World) :
    (sqlEngineAdapterExecute config environment acquireError sql
      world).2.errorMessage.length < 256 := by
  unfold sqlEngineAdapterExecute
  cases hprepare : prepareSql config environment sql with
  | error result => exact prepareSql_length hprepare
  | ok statement =>
      simp only
      split
      · exact setError_length _ _ _
      · cases acquireError with
        | some text => exact setError_length _ _ _
        | none =>
            simp only [adapterBody]
            split
            · exact setError_length _ _ _
            · split
              · exact setError_length _ _ _
              · exact executedResult_length _ _ _ _

/-- The texts that `build_user_error_message` has for errors. -/
def rewordedTexts : List (SqlEngineErrorCode × Bytes) :=
  [(.unsupportedSql,
      ascii
        "SQL must start with SELECT or INSERT. Check the first keyword for a typo."),
    (.sqlParseError,
      ascii
        "SQL syntax is invalid. Check that required table and column names are present."),
    (.invalidSqlArgument, ascii "WHERE id = ... requires an integer value."),
    (.invalidSqlArgument,
      ascii
        "SQL statement must not be blank. Enter a SELECT or INSERT statement.")]

theorem userErrorText_cases (code : SqlEngineErrorCode) (original : Bytes) :
    userErrorText code original = original ∨
      (code, userErrorText code original) ∈ rewordedTexts := by
  cases code with
  | unsupportedSql =>
      simp only [userErrorText]
      split
      · exact .inr (by decide)
      · exact .inl rfl
  | sqlParseError =>
      simp only [userErrorText]
      split
      · exact .inr (by decide)
      · exact .inl rfl
  | invalidSqlArgument =>
      simp only [userErrorText]
      split
      · exact .inr (by decide)
      · split
        · exact .inr (by decide)
        · exact .inl rfl
  | _ => exact .inl rfl

theorem rewordedTexts_parts :
    rewordedTexts.all (fun entry =>
      let body := errorBody entry.1 (httpJsonEscape (snprintf userMessageSize entry.2))
      !body.contains Byte.backslash &&
        (quotedParts body).all fun part => userErrorText entry.1 part == part) = true := by
  decide

theorem userErrorText_of_answer {code : SqlEngineErrorCode} {original : Bytes}
    {value error : JsonValue}
    (h : JsonText value
      (errorBody code (httpJsonEscape (buildUserErrorMessage code original))))
    (herror : value.field (ascii "error") = some error)
    (hmessage : error.field (ascii "message") = some (.string original)) :
    userErrorText code original = original := by
  rcases userErrorText_cases code original with hsame | hreworded
  · exact hsame
  · have hparts := List.all_eq_true.mp rewordedTexts_parts _ hreworded
    simp only [Bool.and_eq_true, Bool.not_eq_true', List.all_eq_true, beq_iff_eq] at hparts
    have hbackslash : Byte.backslash ∉
        errorBody code (httpJsonEscape (buildUserErrorMessage code original)) := by
      intro hmem
      exact Bool.false_ne_true (hparts.1.symm.trans (List.contains_iff_mem.mpr hmem))
    exact hparts.2 original (h.field_field_quoted herror hmessage hbackslash)

theorem errorBody_safeText {code : SqlEngineErrorCode} {text : Bytes}
    (h : SafeText (errorBody code (httpJsonEscape text))) : SafeText text := by
  have hfront : forall b,
      b ∈ ascii "\x7b\"ok\":false,\"error\":\x7b\"code\":\"" ++
        sqlEngineErrorCodeName code ++ ascii "\",\"message\":\"" -> b < 0x80 := by
    apply ascii_all
    cases code <;> decide
  have hend : ascii "\"\x7d\x7d" = Byte.doubleQuote :: ascii "\x7d\x7d" := rfl
  unfold errorBody at h
  rw [List.append_assoc, hend] at h
  exact safeText_of_escaped text ((h.drop_ascii hfront).cut (by decide)).1

theorem successBody_safeText {result : SqlEngineAdapterResult}
    (htype : result.statementType.all isPlainByte = true)
    (h : SafeText (buildSuccessBody result (httpJsonEscape result.summary)
      (httpJsonEscape (result.output.getD [])))) :
    SafeText result.summary ∧ SafeText (result.output.getD []) := by
  have hplain : forall b : Byte, isPlainByte b = true -> b < 0x80 := by
    decide +kernel
  have hfront : forall b,
      b ∈ ascii "\x7b\"ok\":true,\"statement_type\":\"" ++ result.statementType ++
        ascii "\",\"affected_rows\":" ++ decimalNat result.affectedRows ++
          ascii ",\"summary\":\"" -> b < 0x80 := by
    intro b hb
    simp only [List.mem_append] at hb
    rcases hb with (((hb | hb) | hb) | hb) | hb
    · exact ascii_all (by decide) b hb
    · exact hplain b (List.all_eq_true.mp htype b hb)
    · exact ascii_all (by decide) b hb
    · exact (isDigit_printable (decimalNat_digits _ b hb)).2
    · exact ascii_all (by decide) b hb
  have hmiddle : forall b, b ∈ ascii ",\"output\":\"" -> b < 0x80 :=
    ascii_all (by decide)
  have houtput : ascii "\",\"output\":\"" =
      Byte.doubleQuote :: ascii ",\"output\":\"" := rfl
  have helapsed : ascii "\",\"elapsed_ms\":" =
      Byte.doubleQuote :: ascii ",\"elapsed_ms\":" := rfl
  have hbody : SafeText
      ((ascii "\x7b\"ok\":true,\"statement_type\":\"" ++ result.statementType ++
          ascii "\",\"affected_rows\":" ++ decimalNat result.affectedRows ++
            ascii ",\"summary\":\"") ++
        (httpJsonEscape result.summary ++ Byte.doubleQuote ::
          (ascii ",\"output\":\"" ++
            (httpJsonEscape (result.output.getD []) ++ Byte.doubleQuote ::
              (ascii ",\"elapsed_ms\":" ++ (decimalThousandths result.elapsedMs ++
                (ascii ",\"wall_elapsed_ms\":" ++
                  (decimalThousandths result.wallElapsedMs ++ ascii "\x7d")))))))) := by
    unfold buildSuccessBody at h
    rw [houtput, helapsed] at h
    simpa only [List.append_assoc, List.cons_append] using h
  have hsummary := (hbody.drop_ascii hfront).cut (by decide)
  exact ⟨safeText_of_escaped _ hsummary.1,
    safeText_of_escaped _ ((hsummary.2.2.drop_ascii hmiddle).cut (by decide)).1⟩

theorem resultResponse_faithful_iff {result : SqlEngineAdapterResult}
    (htype : result.ok = true -> result.statementType.all isPlainByte = true)
    (hlength : result.errorMessage.length < 256) :
    (exists response value, resultResponse result = some response ∧
      JsonText value response.body ∧ HoldsStrings value result) <->
        ComesThrough result := by
  by_cases hok : result.ok = true
  · unfold ComesThrough
    simp only [HoldsStrings, hok, if_true]
    constructor
    · rintro ⟨response, value, hresponse, hjson, _⟩
      unfold resultResponse at hresponse
      rw [if_pos hok, Option.some.injEq] at hresponse
      rw [← hresponse] at hjson
      exact successBody_safeText (htype hok) hjson.safeText
    · intro hsafe
      have hresult : SafeResult result := by
        rw [SafeResult, if_pos hok]
        exact hsafe
      rcases resultResponse_json htype hresult with
        ⟨response, value, hresponse, hjson, _, hcarries⟩
      rw [if_pos hok] at hcarries
      exact ⟨response, value, hresponse, hjson, hcarries.2.2⟩
  · unfold ComesThrough
    simp only [HoldsStrings, hok]
    constructor
    · rintro ⟨response, value, hresponse, hjson, error, herror, hmessage⟩
      unfold resultResponse at hresponse
      rw [if_neg hok, httpResponseSetError_fits _ (buildUserErrorMessage_length _ _),
        Option.some.injEq] at hresponse
      rw [← hresponse] at hjson
      have hsame := userErrorText_of_answer hjson herror hmessage
      have hsafe := errorBody_safeText hjson.safeText
      rw [buildUserErrorMessage_same hlength hsame] at hsafe
      exact ⟨hsafe, hsame⟩
    · rintro ⟨hsafe, hsame⟩
      have hmessage := buildUserErrorMessage_same hlength hsame
      have hresult : SafeResult result := by
        rw [SafeResult, if_neg hok, hmessage]
        exact hsafe
      rcases resultResponse_json htype hresult with
        ⟨response, value, hresponse, hjson, _, hcarries⟩
      rw [if_neg hok, hmessage] at hcarries
      rcases hcarries with ⟨error, herror, _, hfield⟩
      exact ⟨response, value, hresponse, hjson, error, herror, hfield⟩

/--
A request is answered with a JSON text that holds the strings of the engine exactly if
these strings come through.
-/
theorem query_response_faithful_iff (config : SqlEngineAdapterConfig)
    (environment : CallEnvironment) (acquireError : Option Bytes)
    (request : HttpRequest) (world : World) :
    AnswersFaithfully config environment acquireError request world <->
      forall result,
        queryResult config environment acquireError request world = some result ->
          ComesThrough result := by
  unfold AnswersFaithfully apiHandleQuery queryResult
  cases hquery : querySql request with
  | error refused =>
      rcases refused with ⟨code, text⟩
      rcases querySql_error hquery with ⟨hplain, hlength⟩
      constructor
      · intro _ result hresult
        cases hresult
      · intro _
        refine ⟨_, _, httpResponseSetError_fits code hlength,
          errorBody_jsonText code (safeText_plain hplain), ?_⟩
        intro result hresult
        cases hresult
  | ok sql =>
      simp only [Option.some.injEq, forall_eq']
      exact resultResponse_faithful_iff (fun hok => sqlEngineAdapterExecute_type hok)
        (sqlEngineAdapterExecute_length _ _ _ _ _)

/-!
## Strings that do not come through
-/

def sampleConfig : SqlEngineAdapterConfig :=
  { schemaDir := sampleSchemaDir, sqlLengthLimit := 0 }

def sampleEnvironment : CallEnvironment :=
  { faults := noFaults
    tmpfileFails := false
    captureError := none
    selfCopy := fun _ => []
    elapsedMs := 0
    wallElapsedMs := 0 }

/-- The state at a start, with these rows in the file of the sample table. -/
def sampleWorld (rows : Bytes) : World :=
  { engine := startState
      { path := ascii "data"
        files := fun name =>
          if name = ascii "t" then
            .ok { contents := ascii "name\n" ++ rows, updateError := none }
          else .error .noEntry }
    hooks := { forcedNextError := .none, delayAfterLockMs := 0 } }

/-- A request with this SQL text. -/
def sampleRequest (sql : Bytes) : HttpRequest :=
  { method := ascii "POST"
    path := ascii "/query"
    version := ascii "HTTP/1.1"
    headers :=
      [{ name := ascii "Content-Type", value := ascii "application/json" },
        { name := ascii "Content-Length", value := decimalNat (sql.length + 10) }]
    body := ascii "\x7b\"sql\":\"" ++ sql ++ ascii "\"\x7d"
    bodyLength := sql.length + 10 }

def sampleResponse (rows : Bytes) : Option HttpResponse :=
  (apiHandleQuery sampleConfig sampleEnvironment none
    (sampleRequest (ascii "SELECT * FROM t;")) (sampleWorld rows)).2

/-- A full SELECT of a table with these rows is not answered with JSON. -/
def AnsweredWithoutJson (rows : Bytes) : Prop :=
  exists response, sampleResponse rows = some response ∧
    response.statusCode = 200 ∧ forall value, ¬ JsonText value response.body

theorem answeredWithoutJson_of {rows : Bytes}
    (h : (sampleResponse rows).map (fun response =>
      (response.statusCode, decide (JsonBytes response.body))) = some (200, false)) :
    AnsweredWithoutJson rows := by
  rcases Option.map_eq_some_iff.mp h with ⟨response, hresponse, hpair⟩
  rw [Prod.mk.injEq] at hpair
  exact ⟨response, hresponse, hpair.1, fun value hjson =>
    of_decide_eq_false hpair.2 hjson.jsonBytes⟩

/-- A stored control byte and a stored byte that no UTF-8 has make the body no JSON. -/
theorem query_response_not_as_claimed :
    AnsweredWithoutJson [0x01, Byte.lineFeed] ∧
      AnsweredWithoutJson [0xFF, Byte.lineFeed] ∧
        forall rows, rows = [0x01, Byte.lineFeed] ∨ rows = [0xFF, Byte.lineFeed] ->
          ¬ AnswersFaithfully sampleConfig sampleEnvironment none
            (sampleRequest (ascii "SELECT * FROM t;")) (sampleWorld rows) := by
  have hcontrol : AnsweredWithoutJson [0x01, Byte.lineFeed] :=
    answeredWithoutJson_of (by decide +kernel)
  have hbeyond : AnsweredWithoutJson [0xFF, Byte.lineFeed] :=
    answeredWithoutJson_of (by decide +kernel)
  refine ⟨hcontrol, hbeyond, ?_⟩
  have hunfaithful : forall rows, AnsweredWithoutJson rows ->
      ¬ AnswersFaithfully sampleConfig sampleEnvironment none
        (sampleRequest (ascii "SELECT * FROM t;")) (sampleWorld rows) := by
    rintro rows ⟨response, hresponse, _, hnojson⟩ ⟨other, value, hother, hjson, _⟩
    have hsame : some response = some other := hresponse.symm.trans hother
    rw [Option.some.injEq] at hsame
    rw [← hsame] at hjson
    exact hnojson value hjson
  rintro rows (rfl | rfl)
  · exact hunfaithful _ hcontrol
  · exact hunfaithful _ hbeyond

end Api
end SqlCsvServer
