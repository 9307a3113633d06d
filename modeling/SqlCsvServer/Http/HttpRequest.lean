import SqlCsvServer.Common.Util
import SqlCsvServer.Engine.ErrorCode
import SqlCsvServer.Foundation.ByteStream
import SqlCsvServer.Foundation.TokenLoop

/-!
# Requests: `http/http_request.c`
-/

namespace SqlCsvServer
namespace Http

open Foundation Common Engine

structure HttpHeader where
  name : Bytes
  value : Bytes
deriving DecidableEq

/-- `HttpRequest`; the body is the buffer it was received into. -/
structure HttpRequest where
  method : Bytes
  path : Bytes
  version : Bytes
  headers : List HttpHeader
  body : Bytes
  bodyLength : Nat
deriving DecidableEq

def httpRequestGetHeader (request : HttpRequest) (name : Bytes) : Option Bytes :=
  (request.headers.find? fun header =>
    stringsEqualIgnoreCase header.name name).map HttpHeader.value

/-- The loop of `http_read_request` that looks for `chunked`. -/
def transferEncodingLoop : TokenLoop Bool :=
  { State := Unit
    delimiters := ascii ","
    start := ()
    onToken := fun _ token =>
      if stringsEqualIgnoreCase (trimWhitespace token) (ascii "chunked") then
        .inr true
      else .inl ()
    onEnd := fun _ => false }

def transferEncodingCheck (transferEncodingHeader : Option Bytes) :
    TokenCall Bool :=
  { loop := transferEncodingLoop
    text := transferEncodingHeader
    absent := false }

/-!
## Reading a request
-/

/-- What `set_read_error` leaves in the result. -/
abbrev ReadError := SqlEngineErrorCode × Bytes

def headEnd : Bytes :=
  [Byte.carriageReturn, Byte.lineFeed, Byte.carriageReturn, Byte.lineFeed]

/-- How the loop over the head ended. -/
inductive HeadOutcome where
  | complete (headerBuffer : Bytes)
  | truncated
  | tooLarge

/-- The head loop; `room` is what `header_limit` leaves of the buffer. -/
def readHead : Nat -> Bytes -> ByteStream -> ByteStream × HeadOutcome
  | 0, _, socket => (socket, .tooLarge)
  | room + 1, headerBuffer, socket =>
      match socket.recv 1 with
      | ([], socket) => (socket, .truncated)
      | (byte, socket) =>
          let headerBuffer := headerBuffer ++ byte
          if 4 ≤ headerBuffer.length ∧
              headerBuffer.drop (headerBuffer.length - 4) = headEnd then
            (socket, .complete headerBuffer)
          else readHead room headerBuffer socket

def splitLine : Bytes -> Option (Bytes × Bytes)
  | [] => none
  | b :: rest =>
      if b = Byte.nul then none
      else if b = Byte.carriageReturn ∧ rest.head? = some Byte.lineFeed then
        some ([], rest.tail)
      else (splitLine rest).map fun split => (b :: split.1, split.2)

def scanWord (width : Nat) (text : Bytes) : Option (Bytes × Bytes) :=
  let input := text.dropWhile isSpace
  let word := (input.takeWhile fun b => !isSpace b).take width
  if word = [] then none else some (word, input.drop word.length)

def scanRequestLine (line : Bytes) : Option (Bytes × Bytes × Bytes) :=
  match scanWord 15 line with
  | none => none
  | some (method, rest) =>
      match scanWord 127 rest with
      | none => none
      | some (path, rest) =>
          match scanWord 15 rest with
          | none => none
          | some (version, rest) =>
              if scanWord 1 rest = none then some (method, path, version) else none

def parseRequestLine (line : Bytes) : Except ReadError HttpRequest :=
  match scanRequestLine line with
  | none => .error (.invalidContentLength, ascii "invalid HTTP request line")
  | some (method, path, version) =>
      if version = ascii "HTTP/1.1" then
        .ok
          { method := method
            path := path
            version := version
            headers := []
            body := []
            bodyLength := 0 }
      else .error (.invalidContentLength, ascii "only HTTP/1.1 is supported")

def separateHeader (line : Bytes) : Option HttpHeader :=
  match line.dropWhile fun b => b != 0x3A with
  | [] => none
  | _ :: value =>
      some
        { name := trimWhitespace (line.takeWhile fun b => b != 0x3A)
          value := trimWhitespace value }

def readHeaders : Nat -> Bytes -> List HttpHeader -> Except ReadError (List HttpHeader)
  | 0, _, headers => .ok headers
  | _ + 1, [], headers => .ok headers
  | fuel + 1, b :: rest, headers =>
      -- the loop stops at *cursor == 0, also where that byte was received
      if b = Byte.nul then .ok headers
      else
        match splitLine (b :: rest) with
        | none => .error (.invalidContentLength, ascii "malformed HTTP header line")
        | some (line, behind) =>
            if line = [] then .ok headers
            else if b = Byte.space ∨ b = Byte.tab then
              .error (.invalidContentLength, ascii "folded HTTP headers are not supported")
            else
              match separateHeader line with
              | none => .error (.invalidContentLength, ascii "malformed HTTP header line")
              | some header => readHeaders fuel behind (headers ++ [header])

/-- The request line and the header lines of `header_buffer`. -/
def parseHead (headerBuffer : Bytes) : Except ReadError HttpRequest :=
  match splitLine headerBuffer with
  | none => .error (.invalidContentLength, ascii "malformed HTTP request")
  | some (line, cursor) =>
      match parseRequestLine line with
      | .error error => .error error
      | .ok request =>
          match readHeaders (cursor.length + 1) cursor [] with
          | .error error => .error error
          | .ok headers => .ok { request with headers := headers }

/-- The `Content-Length`; without one `content_length` stays -1. -/
def requestContentLength (request : HttpRequest) : Except ReadError Int :=
  match httpRequestGetHeader request (ascii "Content-Length") with
  | none => .ok (-1)
  | some value =>
      match parseIntStrict value with
      | none =>
          .error (.invalidContentLength,
            ascii "Content-Length must be a non-negative integer")
      | some contentLength =>
          if contentLength < 0 then
            .error (.invalidContentLength,
              ascii "Content-Length must be a non-negative integer")
          else .ok contentLength

/-- The loop of `recv_exact`; every round receives at least one byte. -/
def recvExactLoop (length : Nat) :
    Nat -> Bytes -> ByteStream -> ByteStream × Option Bytes
  | 0, _, socket => (socket, none)
  | fuel + 1, buffer, socket =>
      if buffer.length < length then
        match socket.recv (length - buffer.length) with
        | ([], socket) => (socket, none)
        | (received, socket) => recvExactLoop length fuel (buffer ++ received) socket
      else (socket, some buffer)

def recvExact (socket : ByteStream) (length : Nat) : ByteStream × Option Bytes :=
  recvExactLoop length (length + 1) [] socket

/-- The end of `http_read_request`: the body. -/
def readBody (bodyLimit : Nat) (contentLength : Int) (request : HttpRequest)
    (socket : ByteStream) : ByteStream × Except ReadError HttpRequest :=
  if 0 < contentLength then
    if bodyLimit < contentLength.toNat then
      (socket,
        .error (.payloadTooLarge, ascii "request body exceeds configured size limit"))
    else
      match recvExact socket contentLength.toNat with
      | (socket, none) =>
          (socket,
            .error (.invalidContentLength,
              ascii "request body is shorter than Content-Length"))
      | (socket, some body) =>
          (socket, .ok { request with body := body, bodyLength := contentLength.toNat })
  else (socket, .ok request)

/-- `http_read_request` behind the head loop. -/
def readBehindHead (bodyLimit : Nat) (headerBuffer : Bytes) (socket : ByteStream) :
    ByteStream × Except ReadError HttpRequest :=
  match parseHead headerBuffer with
  | .error error => (socket, .error error)
  | .ok request =>
      if (transferEncodingCheck
          (httpRequestGetHeader request (ascii "Transfer-Encoding"))).alone then
        (socket,
          .error (.chunkedNotSupported, ascii "Transfer-Encoding: chunked is not supported"))
      else
        match requestContentLength request with
        | .error error => (socket, .error error)
        | .ok contentLength => readBody bodyLimit contentLength request socket

/-- `http_read_request`: what it leaves of the stream, and its result. -/
def httpReadRequest (socket : ByteStream) (headerLimit bodyLimit : Nat) :
    ByteStream × Except ReadError HttpRequest :=
  match readHead headerLimit [] socket with
  | (socket, .truncated) =>
      (socket, .error (.invalidContentLength, ascii "truncated HTTP request"))
  | (socket, .tooLarge) =>
      (socket,
        .error (.headerTooLarge, ascii "HTTP headers exceed configured size limit"))
  | (socket, .complete headerBuffer) => readBehindHead bodyLimit headerBuffer socket

end Http
end SqlCsvServer
