import SqlCsvServer.Api.JsonRoundTrip
import SqlCsvServer.Api.Routes
import SqlCsvServer.Execution.Footprint
import SqlCsvServer.Server.Server

/-!
# One connection: `handle_client_request` with all it calls

`Server.handleClientRequest` has the calls on the socket only.  Here a worker reads
the request, routes it and sends what comes back, in whatever pieces the bytes arrive
and are taken.
-/

namespace SqlCsvServer
namespace Server

open Foundation Common Storage Engine Execution Http Api

/-!
## The worker
-/

/-- The fields of `SqlApiServer` that the handling of a request reads. -/
structure ApiServer where
  headerLimit : Nat
  requestBodyLimit : Nat
  workerCount : CInt
  dbService : SqlEngineAdapterConfig

/-- What a worker meets while it handles one request. -/
structure RequestEnvironment where
  queueDepth : CInt
  call : CallEnvironment
  acquireError : Option Bytes

/-- A client socket: what arrives, what is sent, and the calls made on it. -/
structure ClientSocket where
  incoming : ByteStream
  outgoing : ByteSink
  calls : List SocketAction

def sendSimpleError (socket : ByteSink) (code : SqlEngineErrorCode)
    (text : Bytes) : ByteSink :=
  match httpResponseSetError code text with
  | none => socket
  | some response => (httpResponseSend socket response).1

def ApiServer.context (server : ApiServer) (environment : RequestEnvironment) :
    ApiContext :=
  { dbService := server.dbService
    workerCount := server.workerCount
    queueDepth := environment.queueDepth }

def ApiServer.route (server : ApiServer) (environment : RequestEnvironment)
    (request : HttpRequest) (world : World) : World × Option HttpResponse :=
  httpRouteRequest environment.call environment.acquireError request
    (server.context environment) world

def ApiServer.handleClientRequest (server : ApiServer)
    (environment : RequestEnvironment) (socket : ClientSocket) (world : World) :
    World × ClientSocket :=
  match httpReadRequest socket.incoming server.headerLimit
      server.requestBodyLimit with
  | (incoming, .error (code, text)) =>
      (world,
        { incoming := incoming
          outgoing := sendSimpleError socket.outgoing code text
          calls := socket.calls ++
            [.readRequest, .sendSimpleError code, .closeClientSocket] })
  | (incoming, .ok request) =>
      match server.route environment request world with
      | (world, none) =>
          (world,
            { incoming := incoming
              outgoing := sendSimpleError socket.outgoing .internalError
                (ascii "failed to construct HTTP response")
              calls := socket.calls ++
                [.readRequest, .queueDepth, .sendSimpleError .internalError,
                  .closeClientSocket] })
      | (world, some response) =>
          (world,
            { incoming := incoming
              outgoing := (httpResponseSend socket.outgoing response).1
              calls := socket.calls ++
                [.readRequest, .queueDepth, .sendResponse, .closeClientSocket] })

/-!
## Requests that are not read
-/

/-- Every error of `http_read_request`. -/
def readErrors : List ReadError :=
  [(.invalidContentLength, ascii "truncated HTTP request"),
    (.headerTooLarge, ascii "HTTP headers exceed configured size limit"),
    (.invalidContentLength, ascii "malformed HTTP request"),
    (.invalidContentLength, ascii "invalid HTTP request line"),
    (.invalidContentLength, ascii "only HTTP/1.1 is supported"),
    (.invalidContentLength, ascii "malformed HTTP header line"),
    (.invalidContentLength, ascii "folded HTTP headers are not supported"),
    (.chunkedNotSupported, ascii "Transfer-Encoding: chunked is not supported"),
    (.invalidContentLength, ascii "Content-Length must be a non-negative integer"),
    (.payloadTooLarge, ascii "request body exceeds configured size limit"),
    (.invalidContentLength, ascii "request body is shorter than Content-Length")]

theorem readHeaders_readErrors {error : ReadError} :
    forall {fuel : Nat} {cursor : Bytes} {headers : List HttpHeader},
      readHeaders fuel cursor headers = .error error -> error ∈ readErrors := by
  intro fuel
  induction fuel with
  | zero => exact fun h => nomatch h
  | succ fuel ih =>
      intro cursor headers h
      cases cursor with
      | nil => cases h
      | cons b rest =>
          rw [readHeaders] at h
          split at h
          · cases h
          · split at h
            · cases h
              simp [readErrors]
            · split at h
              · cases h
              · split at h
                · cases h
                  simp [readErrors]
                · split at h
                  · cases h
                    simp [readErrors]
                  · exact ih h

theorem parseHead_readErrors {headerBuffer : Bytes} {error : ReadError}
    (h : parseHead headerBuffer = .error error) : error ∈ readErrors := by
  unfold parseHead at h
  split at h
  · cases h
    simp [readErrors]
  · split at h
    · next hline =>
        cases h
        unfold parseRequestLine at hline
        split at hline
        · cases hline
          simp [readErrors]
        · split at hline
          · cases hline
          · cases hline
            simp [readErrors]
    · split at h
      · next hheaders =>
          cases h
          exact readHeaders_readErrors hheaders
      · cases h

theorem readBehindHead_readErrors {bodyLimit : Nat} {headerBuffer : Bytes}
    {socket : ByteStream} {error : ReadError}
    (h : (readBehindHead bodyLimit headerBuffer socket).2 = .error error) :
    error ∈ readErrors := by
  unfold readBehindHead at h
  split at h
  · next hhead =>
      cases h
      exact parseHead_readErrors hhead
  · split at h
    · cases h
      simp [readErrors]
    · split at h
      · next hlength =>
          cases h
          unfold requestContentLength at hlength
          split at hlength
          · cases hlength
          · split at hlength
            · cases hlength
              simp [readErrors]
            · split at hlength
              · cases hlength
                simp [readErrors]
              · cases hlength
      · unfold readBody at h
        split at h
        · split at h
          · cases h
            simp [readErrors]
          · split at h
            · cases h
              simp [readErrors]
            · cases h
        · cases h

theorem httpReadRequest_readErrors {socket : ByteStream}
    {headerLimit bodyLimit : Nat} {error : ReadError}
    (h : (httpReadRequest socket headerLimit bodyLimit).2 = .error error) :
    error ∈ readErrors := by
  unfold httpReadRequest at h
  split at h
  · cases h
    simp [readErrors]
  · cases h
    simp [readErrors]
  · exact readBehindHead_readErrors h

theorem readErrors_length : forall error, error ∈ readErrors ->
    error.2.length < 256 := by
  decide

/-!
## The response to a request
-/

theorem sendSimpleError_eq (socket : ByteSink) {code : SqlEngineErrorCode}
    {text : Bytes} (h : text.length < 256) :
    sendSimpleError socket code text =
      (httpResponseSend socket (errorResponse code text)).1 := by
  unfold sendSimpleError
  rw [httpResponseSetError_fits code h]
  rfl

theorem saysHowItWent_wire {response : HttpResponse} (h : SaysHowItWent response) :
    response.statusCode < 1000 ∧ response.contentType.length ≤ 32 ∧
      IsHeaderValue response.contentType := by
  have hjson : (ascii "application/json; charset=utf-8").length ≤ 32 ∧
      IsHeaderValue (ascii "application/json; charset=utf-8") :=
    ⟨by decide, by decide, by decide, by decide, by decide⟩
  have hhtml : (ascii "text/html; charset=utf-8").length ≤ 32 ∧
      IsHeaderValue (ascii "text/html; charset=utf-8") :=
    ⟨by decide, by decide, by decide, by decide, by decide⟩
  rcases h with ⟨hstatus, htype⟩ | ⟨code, text, _, rfl⟩
  · rw [hstatus]
    rcases htype with htype | ⟨htype, _⟩
    · rw [htype]
      exact ⟨by decide, hhtml⟩
    · rw [htype]
      exact ⟨by decide, hjson⟩
  · have hcode := (httpStatusFromEngineError_cases code).2
    exact ⟨Nat.lt_trans hcode (by decide), hjson⟩

structure Answered (before after : ClientSocket) (response : HttpResponse) :
    Prop where
  report : SaysHowItWent response
  outgoing : after.outgoing = (httpResponseSend before.outgoing response).1
  calls : exists readError routed,
    after.calls = before.calls ++ Server.handleClientRequest readError routed

theorem handleClientRequest_answered (server : ApiServer)
    (environment : RequestEnvironment) (socket : ClientSocket) (world : World) :
    exists response,
      Answered socket (server.handleClientRequest environment socket world).2
        response := by
  unfold ApiServer.handleClientRequest
  rcases hread : httpReadRequest socket.incoming server.headerLimit
      server.requestBodyLimit with ⟨incoming, ⟨code, text⟩ | request⟩
  · have hshort : text.length < 256 := by
      apply readErrors_length (code, text)
      apply httpReadRequest_readErrors
      rw [hread]
    exact ⟨errorResponse code text,
      { report := .inr ⟨code, text, hshort, rfl⟩
        outgoing := sendSimpleError_eq _ hshort
        calls := ⟨some code, true, rfl⟩ }⟩
  · rcases httpRouteRequest_answers environment.call
        environment.acquireError request (server.context environment) world with
      ⟨response, hresponse, hreport⟩
    refine ⟨response, ?_⟩
    simp only
    unfold ApiServer.route
    rcases hrouted : httpRouteRequest environment.call
        environment.acquireError request (server.context environment) world with
      ⟨after, routed⟩
    rw [hrouted] at hresponse
    simp only at hresponse
    rw [hresponse]
    exact
      { report := hreport
        outgoing := rfl
        calls := ⟨none, true, rfl⟩ }

/--
Whatever bytes arrive in whatever pieces, a client gets one response.  It says how the
request went; the client gets a beginning of its bytes, and all of them if the
connection lasts; and those bytes can be read as that response and as no other.
-/
theorem client_gets_one_response (server : ApiServer)
    (environment : RequestEnvironment) (socket : ClientSocket) (world : World) :
    exists response,
      SaysHowItWent response ∧
        (response.body.length < 2 ^ 64 ->
          exists whole,
            Sent socket.outgoing (responseBytes response)
              ((server.handleClientRequest environment socket world).2.outgoing,
                whole)) ∧
        (forall received, ReceivedAs (responseBytes response) received <->
          received = receivedResponse response) ∧
        exists readError routed,
          (server.handleClientRequest environment socket world).2.calls =
            socket.calls ++ Server.handleClientRequest readError routed := by
  rcases handleClientRequest_answered server environment socket world with
    ⟨response, hanswered⟩
  rcases saysHowItWent_wire hanswered.report with ⟨hstatus, htype, hvalue⟩
  have hreceived := receivedAs_response hvalue
  refine ⟨response, hanswered.report, ?_, ?_, hanswered.calls⟩
  · intro hbody
    rw [hanswered.outgoing]
    exact ⟨_, httpResponseSend_sent (responseHeader_fits hstatus htype hbody)⟩
  · intro received
    constructor
    · exact fun hother => hother.unique hreceived
    · rintro rfl
      exact hreceived

/-!
## What requests change
-/

/-- The client posts an INSERT into the table that is stored under a name. -/
def PostsInsert (server : ApiServer) (environment : RequestEnvironment)
    (socket : ClientSocket) (name : Bytes) : Prop :=
  exists request sql insert schema,
    (httpReadRequest socket.incoming server.headerLimit
        server.requestBodyLimit).2 = .ok request ∧
      request.method = ascii "POST" ∧ request.path = ascii "/query" ∧
        querySql request = .ok sql ∧
          prepareSql server.dbService environment.call (some sql) =
              .ok (.insertStatement insert) ∧
            readSchema server.dbService.schemaDir insert.tableName = .ok schema ∧
              schema.storageName = name

theorem sqlEngineAdapterExecute_files {config : SqlEngineAdapterConfig}
    {environment : CallEnvironment} {acquireError : Option Bytes} {sql : Option Bytes}
    {world : World} :
    Extended world.engine.dataDir
        (sqlEngineAdapterExecute config environment acquireError sql
          world).1.engine.dataDir ∧
      forall name,
        (sqlEngineAdapterExecute config environment acquireError sql
            world).1.engine.dataDir.files name ≠ world.engine.dataDir.files name ->
          exists insert schema,
            prepareSql config environment sql = .ok (.insertStatement insert) ∧
              readSchema config.schemaDir insert.tableName = .ok schema ∧
                schema.storageName = name := by
  have hstill : forall {P : Bytes -> Prop},
      Extended world.engine.dataDir world.engine.dataDir ∧
        forall name, world.engine.dataDir.files name ≠ world.engine.dataDir.files name ->
          P name :=
    fun {_} => ⟨extended_refl _, fun _ hchanged => absurd rfl hchanged⟩
  unfold sqlEngineAdapterExecute
  cases prepareSql config environment sql with
  | error result => exact hstill
  | ok statement =>
      simp only
      cases loadSchema config.schemaDir world.engine.dataDir
          (statementTableName statement) with
      | error text => exact hstill
      | ok schema =>
          cases acquireError with
          | some text => exact hstill
          | none =>
              simp only
              unfold adapterBody consumeForcedNextError
              simp only
              split
              · exact hstill
              · split
                · exact hstill
                · rcases @executeStatement_files config.schemaDir statement
                    environment.faults world.engine with ⟨hextended, hfiles⟩
                  refine ⟨hextended, fun name hchanged => ?_⟩
                  rcases hfiles name hchanged with ⟨insert, found, rfl, hread, hname⟩
                  exact ⟨insert, found, rfl, hread, hname⟩

theorem handleClientRequest_files (server : ApiServer)
    (environment : RequestEnvironment) (socket : ClientSocket) (world : World) :
    Extended world.engine.dataDir
        (server.handleClientRequest environment socket world).1.engine.dataDir ∧
      forall name,
        (server.handleClientRequest environment socket
            world).1.engine.dataDir.files name ≠ world.engine.dataDir.files name ->
          PostsInsert server environment socket name := by
  have hworld : (server.handleClientRequest environment socket world).1 = world ∨
      exists request sql,
        (httpReadRequest socket.incoming server.headerLimit
            server.requestBodyLimit).2 = .ok request ∧
          request.method = ascii "POST" ∧ request.path = ascii "/query" ∧
            querySql request = .ok sql ∧
              (server.handleClientRequest environment socket world).1 =
                (sqlEngineAdapterExecute server.dbService environment.call
                  environment.acquireError (some sql) world).1 := by
    unfold ApiServer.handleClientRequest
    rcases hread : httpReadRequest socket.incoming server.headerLimit
        server.requestBodyLimit with ⟨incoming, ⟨code, text⟩ | request⟩
    · exact .inl rfl
    · simp only
      unfold ApiServer.route
      have hrouted := @httpRouteRequest_world environment.call
        environment.acquireError request (server.context environment) world
      rcases hroute : httpRouteRequest environment.call
          environment.acquireError request (server.context environment) world with
        ⟨after, none | response⟩
      all_goals
        rw [hroute] at hrouted
        rcases hrouted with hsame | ⟨sql, hmethod, hpath, hsql, hafter⟩
        · exact .inl hsame
        · exact .inr ⟨request, sql, rfl, hmethod, hpath, hsql, congrArg Prod.fst hafter⟩
  rcases hworld with hsame | ⟨request, sql, hread, hmethod, hpath, hsql, hafter⟩
  · rw [hsame]
    exact ⟨extended_refl _, fun name hchanged => absurd rfl hchanged⟩
  · rw [hafter]
    rcases @sqlEngineAdapterExecute_files server.dbService environment.call
      environment.acquireError (some sql) world with ⟨hextended, hfiles⟩
    refine ⟨hextended, fun name hchanged => ?_⟩
    rcases hfiles name hchanged with ⟨insert, schema, hprepared, hschema, hname⟩
    exact ⟨request, sql, insert, schema, hread, hmethod, hpath, hsql, hprepared, hschema,
      hname⟩

/-- Connections that are handled one after the other. -/
def ApiServer.serve (server : ApiServer) :
    List (RequestEnvironment × ClientSocket) -> World -> World
  | [], world => world
  | (environment, socket) :: connections, world =>
      server.serve connections (server.handleClientRequest environment socket world).1

/--
Over any number of connections, whatever is sent on them and whatever fails, a file
loses nothing and stays where it is; it gets longer only if a client has posted an
INSERT into its table.
-/
theorem files_change_by_inserts (server : ApiServer)
    (connections : List (RequestEnvironment × ClientSocket)) (world : World) :
    Extended world.engine.dataDir (server.serve connections world).engine.dataDir ∧
      forall name,
        (server.serve connections world).engine.dataDir.files name ≠
            world.engine.dataDir.files name ->
          exists connection, connection ∈ connections ∧
            PostsInsert server connection.1 connection.2 name := by
  induction connections generalizing world with
  | nil => exact ⟨extended_refl _, fun name hchanged => absurd rfl hchanged⟩
  | cons connection connections ih =>
      rcases connection with ⟨environment, socket⟩
      rcases handleClientRequest_files server environment socket world with
        ⟨hfirst, hposted⟩
      rcases ih (server.handleClientRequest environment socket world).1 with
        ⟨hrest, hlater⟩
      refine ⟨hfirst.trans hrest, fun name hchanged => ?_⟩
      by_cases hnow : (server.handleClientRequest environment socket
          world).1.engine.dataDir.files name = world.engine.dataDir.files name
      · rcases hlater name (by rw [hnow]; exact hchanged) with ⟨later, hmem, hinsert⟩
        exact ⟨later, List.mem_cons_of_mem _ hmem, hinsert⟩
      · exact ⟨(environment, socket), List.mem_cons_self, hposted name hnow⟩

/-!
## Statements over the wire
-/

end Server
end SqlCsvServer
