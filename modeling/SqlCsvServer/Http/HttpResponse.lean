import SqlCsvServer.Common.Util
import SqlCsvServer.Engine.ErrorCode

/-!
# Responses: `http/http_response.c`
-/

namespace SqlCsvServer
namespace Http

open Foundation Engine

structure HttpResponse where
  statusCode : Nat
  contentType : Bytes
  body : Bytes
deriving DecidableEq

def httpStatusFromEngineError : SqlEngineErrorCode -> Nat
  | .invalidJson => 400
  | .missingSqlField => 400
  | .invalidContentType => 400
  | .invalidContentLength => 400
  | .sqlLexError => 400
  | .sqlParseError => 400
  | .unsupportedSql => 400
  | .invalidSqlArgument => 400
  | .notFound => 404
  | .methodNotAllowed => 405
  | .contentLengthRequired => 411
  | .payloadTooLarge => 413
  | .headerTooLarge => 431
  | .chunkedNotSupported => 501
  | .queueFull => 503
  | .schemaLoadError => 500
  | .storageIoError => 500
  | .indexRebuildError => 500
  | .engineExecutionError => 500
  | .internalError => 500
  | .none => 500

/-- What `http_json_escape` writes for one byte. -/
def jsonEscapeByte (b : Byte) : Bytes :=
  if b = Byte.backslash then [Byte.backslash, Byte.backslash]
  else if b = Byte.doubleQuote then [Byte.backslash, Byte.doubleQuote]
  else if b = Byte.lineFeed then [Byte.backslash, 0x6E]
  else if b = Byte.carriageReturn then [Byte.backslash, 0x72]
  else if b = Byte.tab then [Byte.backslash, 0x74]
  else [b]

def httpJsonEscape (value : Bytes) : Bytes :=
  value.flatMap jsonEscapeByte

def httpResponseSetBody (statusCode : Nat) (contentType body : Bytes) :
    HttpResponse :=
  { statusCode := statusCode, contentType := contentType, body := body }

def httpResponseSetJson (statusCode : Nat) (jsonBody : Bytes) : HttpResponse :=
  httpResponseSetBody statusCode (ascii "application/json; charset=utf-8") jsonBody

/-- The body of `http_response_set_error`. -/
def errorBody (code : SqlEngineErrorCode) (escapedMessage : Bytes) : Bytes :=
  ascii "\x7b\"ok\":false,\"error\":\x7b\"code\":\"" ++
    sqlEngineErrorCodeName code ++ ascii "\",\"message\":\"" ++ escapedMessage ++
      ascii "\"\x7d\x7d"

/-- The size of the buffer of `http_response_set_error`. -/
def errorBodySize : Nat := 1024

def httpResponseSetError (code : SqlEngineErrorCode) (message : Bytes) :
    Option HttpResponse :=
  let body := errorBody code (httpJsonEscape message)
  if errorBodySize ≤ body.length then none
  else some (httpResponseSetJson (httpStatusFromEngineError code) body)

theorem httpJsonEscape_length_le (value : Bytes) :
    (httpJsonEscape value).length ≤ 2 * value.length := by
  induction value with
  | nil => exact Nat.le_refl 0
  | cons b value ih =>
      have hbyte : (jsonEscapeByte b).length ≤ 2 := by
        revert b
        decide +kernel
      unfold httpJsonEscape at ih ⊢
      rw [List.flatMap_cons, List.length_append, List.length_cons]
      omega

theorem httpResponseSetError_fits (code : SqlEngineErrorCode) {message : Bytes}
    (h : message.length < 256) :
    httpResponseSetError code message =
      some (httpResponseSetJson (httpStatusFromEngineError code)
        (errorBody code (httpJsonEscape message))) := by
  have hescaped := httpJsonEscape_length_le message
  have hcode : (sqlEngineErrorCodeName code).length ≤ 32 := by
    cases code <;> decide
  have hbody : (errorBody code (httpJsonEscape message)).length =
      (ascii "\x7b\"ok\":false,\"error\":\x7b\"code\":\"").length +
        (sqlEngineErrorCodeName code).length +
        (ascii "\",\"message\":\"").length + (httpJsonEscape message).length +
        (ascii "\"\x7d\x7d").length := by
    unfold errorBody
    simp only [List.length_append]
  have hfixed : (ascii "\x7b\"ok\":false,\"error\":\x7b\"code\":\"").length +
      (ascii "\",\"message\":\"").length + (ascii "\"\x7d\x7d").length ≤ 64 := by
    decide
  have hfits : ¬ errorBodySize ≤ (errorBody code (httpJsonEscape message)).length := by
    rw [hbody]
    unfold errorBodySize
    omega
  unfold httpResponseSetError
  simp only [hfits, if_false]

end Http
end SqlCsvServer
