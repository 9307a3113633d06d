import SqlCsvServer.Foundation.Bytes

/-!
# Error codes of the engine and the server
-/

namespace SqlCsvServer
namespace Engine

open Foundation

/-- `SqlEngineErrorCode`, without the prefix `SQL_ENGINE_ERROR_`. -/
inductive SqlEngineErrorCode where
  | none
  | invalidJson
  | missingSqlField
  | invalidContentType
  | contentLengthRequired
  | invalidContentLength
  | payloadTooLarge
  | headerTooLarge
  | chunkedNotSupported
  | methodNotAllowed
  | notFound
  | sqlLexError
  | sqlParseError
  | unsupportedSql
  | invalidSqlArgument
  | engineExecutionError
  | schemaLoadError
  | storageIoError
  | indexRebuildError
  | queueFull
  | internalError
deriving DecidableEq, Repr

def sqlEngineErrorCodeName : SqlEngineErrorCode -> Bytes
  | .none => ascii "NONE"
  | .invalidJson => ascii "INVALID_JSON"
  | .missingSqlField => ascii "MISSING_SQL_FIELD"
  | .invalidContentType => ascii "INVALID_CONTENT_TYPE"
  | .contentLengthRequired => ascii "CONTENT_LENGTH_REQUIRED"
  | .invalidContentLength => ascii "INVALID_CONTENT_LENGTH"
  | .payloadTooLarge => ascii "PAYLOAD_TOO_LARGE"
  | .headerTooLarge => ascii "HEADER_TOO_LARGE"
  | .chunkedNotSupported => ascii "CHUNKED_NOT_SUPPORTED"
  | .methodNotAllowed => ascii "METHOD_NOT_ALLOWED"
  | .notFound => ascii "NOT_FOUND"
  | .sqlLexError => ascii "SQL_LEX_ERROR"
  | .sqlParseError => ascii "SQL_PARSE_ERROR"
  | .unsupportedSql => ascii "UNSUPPORTED_SQL"
  | .invalidSqlArgument => ascii "INVALID_SQL_ARGUMENT"
  | .engineExecutionError => ascii "ENGINE_EXECUTION_ERROR"
  | .schemaLoadError => ascii "SCHEMA_LOAD_ERROR"
  | .storageIoError => ascii "STORAGE_IO_ERROR"
  | .indexRebuildError => ascii "INDEX_REBUILD_ERROR"
  | .queueFull => ascii "QUEUE_FULL"
  | .internalError => ascii "INTERNAL_ERROR"

end Engine
end SqlCsvServer
