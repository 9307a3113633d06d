import SqlCsvServer.Engine.Adapter
import SqlCsvServer.Http.HttpRequest
import SqlCsvServer.Http.HttpResponse

/-!
# `POST /query`: `api/query_handler.c`

A cursor into the body is the text from it on; the end of the text is the
terminating NUL.
-/

namespace SqlCsvServer
namespace Api

open Foundation Common Engine Http

/-!
## The `sql` field of the body
-/

/-- The blanks of `skip_ws`. -/
def isJsonBlank (b : Byte) : Bool :=
  b == Byte.space || b == Byte.tab || b == Byte.carriageReturn ||
    b == Byte.lineFeed

def skipWs (text : Bytes) : Bytes :=
  text.dropWhile isJsonBlank

/-- The byte an escape of `parse_json_string` stands for. -/
def unescapeByte (b : Byte) : Option Byte :=
  if b = Byte.doubleQuote ∨ b = Byte.backslash ∨ b = 0x2F then some b
  else if b = 0x6E then some Byte.lineFeed
  else if b = 0x72 then some Byte.carriageReturn
  else if b = 0x74 then some Byte.tab
  else none

/-- `parse_json_string` behind the opening quote. -/
def parseJsonStringTail : Bytes -> Option (Bytes × Bytes)
  | [] => none
  | b :: rest =>
      if b = Byte.doubleQuote then some ([], rest)
      else if b = Byte.backslash then
        match rest with
        | [] => none
        | escaped :: rest =>
            match unescapeByte escaped with
            | none => none
            | some byte =>
                (parseJsonStringTail rest).map fun parsed =>
                  (byte :: parsed.1, parsed.2)
      else
        (parseJsonStringTail rest).map fun parsed => (b :: parsed.1, parsed.2)

def parseJsonString : Bytes -> Option (Bytes × Bytes)
  | [] => none
  | b :: rest =>
      if b = Byte.doubleQuote then parseJsonStringTail rest else none

/-- A byte of what `skip_json_value` takes for a number. -/
def isNumberByte (b : Byte) : Bool :=
  isDigit b || b == 0x2D || b == 0x2B

def skipJsonValue (text : Bytes) : Option Bytes :=
  let input := skipWs text
  if input.head? = some Byte.doubleQuote then
    (parseJsonString input).map Prod.snd
  else if (ascii "null").isPrefixOf input then some (input.drop 4)
  else if (ascii "true").isPrefixOf input then some (input.drop 4)
  else if (ascii "false").isPrefixOf input then some (input.drop 5)
  else
    -- the cursor has moved if blanks were skipped, even when no digit follows
    let rest := input.dropWhile isNumberByte
    if rest.length ≠ text.length then some rest else none

/-- The return values 1, -1 and 0 of `extract_sql_field`. -/
inductive SqlField where
  | found (sql : Bytes)
  | missing
  | invalid
deriving DecidableEq

/-- The end of `extract_sql_field`, behind the closing brace. -/
def closeObject (text : Bytes) (found : Option Bytes) : SqlField :=
  if skipWs text ≠ [] then .invalid
  else
    match found with
    | none => .missing
    | some sql => .found sql

/-- The value of a member: what it makes of `sql_out`, and the cursor. -/
def memberValue (key : Bytes) (found : Option Bytes) (text : Bytes) :
    Option (Option Bytes × Bytes) :=
  if key = ascii "sql" then
    (parseJsonString text).map fun parsed => (some parsed.1, parsed.2)
  else (skipJsonValue text).map fun rest => (found, rest)

/-- The loop of `extract_sql_field`; every round takes at least one byte. -/
def extractMembers : Nat -> Bytes -> Option Bytes -> SqlField
  | 0, _, _ => .invalid
  | fuel + 1, text, found =>
      match skipWs text with
      | [] => .invalid
      | b :: rest =>
          if b = 0x7D then closeObject rest found
          else
            match parseJsonString (b :: rest) with
            | none => .invalid
            | some (key, rest) =>
                match skipWs rest with
                | [] => .invalid
                | colon :: rest =>
                    if colon ≠ 0x3A then .invalid
                    else
                      match memberValue key found (skipWs rest) with
                      | none => .invalid
                      | some (found, rest) =>
                          match skipWs rest with
                          | [] => .invalid
                          | b :: rest =>
                              if b = Byte.comma then
                                extractMembers fuel rest found
                              else if b = 0x7D then closeObject rest found
                              else .invalid

/-- `extract_sql_field` on the C string in the body. -/
def extractSqlField (body : Bytes) : SqlField :=
  match skipWs (cString body) with
  | [] => .invalid
  | b :: rest =>
      if b ≠ 0x7B then .invalid else extractMembers (rest.length + 1) rest none

/-!
## The content type
-/

/-- The tokens the loop of `is_valid_query_content_type` has seen. -/
inductive ContentTypeTokens where
  | none
  | mediaType (seenCharset : Bool)
deriving DecidableEq

def isCharsetParameter (seenCharset : Bool) (part : Bytes) : Bool :=
  match part.dropWhile fun b => b != 0x3D with
  | [] => false
  | _ :: value =>
      stringsEqualIgnoreCase
          (trimWhitespace (part.takeWhile fun b => b != 0x3D))
          (ascii "charset") &&
        stringsEqualIgnoreCase (trimWhitespace value) (ascii "utf-8") &&
        !seenCharset

/-- The loop of `is_valid_query_content_type`. -/
def contentTypeLoop : TokenLoop Bool :=
  { State := ContentTypeTokens
    delimiters := ascii ";"
    start := .none
    onToken := fun seen token =>
      match seen with
      | .none =>
          if stringsEqualIgnoreCase (trimWhitespace token)
              (ascii "application/json") then
            .inl (.mediaType false)
          else .inr false
      | .mediaType seenCharset =>
          if isCharsetParameter seenCharset (trimWhitespace token) then
            .inl (.mediaType true)
          else .inr false
    onEnd := fun seen => decide (seen ≠ .none) }

/-- A call of `is_valid_query_content_type`; `none` is NULL. -/
def contentTypeCheck (contentType : Option Bytes) : TokenCall Bool :=
  { loop := contentTypeLoop
    text := contentType
    absent := false }

def isValidQueryContentType (contentType : Option Bytes) : Bool :=
  (contentTypeCheck contentType).alone

/-!
## The answer
-/

def decimalThousandths (n : Int) : Bytes :=
  (if n < 0 then ascii "-" else []) ++ decimalNat (n.natAbs / 1000) ++
    ascii "." ++ decimalNat (n.natAbs / 100 % 10) ++
      decimalNat (n.natAbs / 10 % 10) ++ decimalNat (n.natAbs % 10)

def buildSuccessBody (result : SqlEngineAdapterResult)
    (escapedSummary escapedOutput : Bytes) : Bytes :=
  ascii "\x7b\"ok\":true,\"statement_type\":\"" ++ result.statementType ++
    ascii "\",\"affected_rows\":" ++ decimalNat result.affectedRows ++
      ascii ",\"summary\":\"" ++ escapedSummary ++
        ascii "\",\"output\":\"" ++ escapedOutput ++
          ascii "\",\"elapsed_ms\":" ++ decimalThousandths result.elapsedMs ++
            ascii ",\"wall_elapsed_ms\":" ++
              decimalThousandths result.wallElapsedMs ++ ascii "\x7d"

/-- The size of `user_message`. -/
def userMessageSize : Nat := 256

/-- The text `build_user_error_message` prints. -/
def userErrorText (code : SqlEngineErrorCode) (original : Bytes) : Bytes :=
  match code with
  | .unsupportedSql =>
      if strstr original (ascii "only INSERT and SELECT are supported") then
        ascii
          "SQL must start with SELECT or INSERT. Check the first keyword for a typo."
      else original
  | .sqlParseError =>
      if strstr original (ascii "expected identifier") ∨
          strstr original (ascii "expected keyword") then
        ascii
          "SQL syntax is invalid. Check that required table and column names are present."
      else original
  | .invalidSqlArgument =>
      if strstr original (ascii "WHERE id value must be an integer") then
        ascii "WHERE id = ... requires an integer value."
      else if strstr original (ascii "SQL statement must not be blank") then
        ascii
          "SQL statement must not be blank. Enter a SELECT or INSERT statement."
      else original
  | _ => original

def buildUserErrorMessage (code : SqlEngineErrorCode) (original : Bytes) :
    Bytes :=
  snprintf userMessageSize (userErrorText code original)

/-- The end of `api_handle_query`: the response to a result of the engine. -/
def resultResponse (result : SqlEngineAdapterResult) : Option HttpResponse :=
  if result.ok then
    some (httpResponseSetJson 200
      (buildSuccessBody result (httpJsonEscape result.summary)
        (httpJsonEscape (result.output.getD []))))
  else
    httpResponseSetError result.errorCode
      (buildUserErrorMessage result.errorCode result.errorMessage)

/-- The steps of `api_handle_query` in front of the engine: the SQL text. -/
def querySql (request : HttpRequest) : Except (SqlEngineErrorCode × Bytes) Bytes :=
  if httpRequestGetHeader request (ascii "Content-Length") = none then
    .error (.contentLengthRequired,
      ascii "Content-Length is required for POST /query")
  else if ¬ isValidQueryContentType
      (httpRequestGetHeader request (ascii "Content-Type")) then
    .error (.invalidContentType,
      ascii "Content-Type must be application/json with optional charset=utf-8")
  else
    match extractSqlField request.body with
    | .missing => .error (.missingSqlField, ascii "field 'sql' is required")
    | .invalid =>
        .error (.invalidJson,
          ascii
            "request body must be a JSON object containing a string field named 'sql'")
    | .found sql => .ok sql

def apiHandleQuery (config : SqlEngineAdapterConfig)
    (environment : CallEnvironment) (acquireError : Option Bytes)
    (request : HttpRequest) (world : World) : World × Option HttpResponse :=
  match querySql request with
  | .error (code, text) => (world, httpResponseSetError code text)
  | .ok sql =>
      match sqlEngineAdapterExecute config environment acquireError (some sql)
          world with
      | (world, result) => (world, resultResponse result)

end Api
end SqlCsvServer
