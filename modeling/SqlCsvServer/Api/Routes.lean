import SqlCsvServer.Api.ResponseBody
import SqlCsvServer.Api.RootPage
import SqlCsvServer.Http.ResponseWire

/-!
# Routing: `http/router.c`

With the two handlers of `GET`, which answer from numbers that the server hands
them.
-/

namespace SqlCsvServer
namespace Api

open Foundation Common Engine Http

/-!
## What the handlers are given
-/

/-- A value of an `int`. -/
structure CInt where
  value : Int
  lower : intMin ≤ value
  upper : value ≤ intMax

structure ApiContext where
  dbService : SqlEngineAdapterConfig
  workerCount : CInt
  queueDepth : CInt

/-- The size of the buffer of `api_handle_health`. -/
def healthBodySize : Nat := 256

/-!
## The handlers
-/

def httpResponseSetHtml (statusCode : Nat) (htmlBody : Bytes) : HttpResponse :=
  httpResponseSetBody statusCode (ascii "text/html; charset=utf-8") htmlBody

def apiHandleRoot (request : HttpRequest) (context : ApiContext) :
    Option HttpResponse :=
  if 0 < request.bodyLength then
    httpResponseSetError .invalidJson
      (ascii "GET / must not include a request body")
  else
    let body := pageOpening ++ decimalInt context.workerCount.value ++ pageBetween ++
      decimalInt context.queueDepth.value ++ pageClosing
    if rootBodySize ≤ body.length then none
    else some (httpResponseSetHtml 200 body)

/-- The text that `api_handle_health` prints. -/
def healthBody (context : ApiContext) : Bytes :=
  ascii "\x7b\"ok\":true,\"status\":\"ok\",\"worker_count\":" ++
    decimalInt context.workerCount.value ++ ascii ",\"queue_depth\":" ++
      decimalInt context.queueDepth.value ++ ascii "\x7d"

def apiHandleHealth (request : HttpRequest) (context : ApiContext) :
    Option HttpResponse :=
  if 0 < request.bodyLength then
    httpResponseSetError .invalidJson
      (ascii "GET /health must not include a request body")
  else
    if healthBodySize ≤ (healthBody context).length then none
    else some (httpResponseSetJson 200 (healthBody context))

def httpRouteRequest (environment : CallEnvironment)
    (acquireError : Option Bytes) (request : HttpRequest) (context : ApiContext)
    (world : World) : World × Option HttpResponse :=
  if request.path = ascii "/" then
    if request.method ≠ ascii "GET" then
      (world,
        httpResponseSetError .methodNotAllowed (ascii "only GET is allowed for /"))
    else (world, apiHandleRoot request context)
  else if request.path = ascii "/health" then
    if request.method ≠ ascii "GET" then
      (world,
        httpResponseSetError .methodNotAllowed
          (ascii "only GET is allowed for /health"))
    else (world, apiHandleHealth request context)
  else if request.path = ascii "/query" then
    if request.method ≠ ascii "POST" then
      (world,
        httpResponseSetError .methodNotAllowed
          (ascii "only POST is allowed for /query"))
    else apiHandleQuery context.dbService environment acquireError request world
  else
    (world,
      httpResponseSetError .notFound (ascii "requested path does not exist"))

/-!
## What a response says
-/

/-- The response of `http_response_set_error`, with a message that fits. -/
def errorResponse (code : SqlEngineErrorCode) (message : Bytes) : HttpResponse :=
  httpResponseSetJson (httpStatusFromEngineError code)
    (errorBody code (httpJsonEscape message))

def successStart : Bytes :=
  ascii "\x7b\"ok\":true,"

/--
The status is 200 for a page or a report of success; every other response is the report
of an error, with the status of its code.
-/
def SaysHowItWent (response : HttpResponse) : Prop :=
  (response.statusCode = 200 ∧
      (response.contentType = ascii "text/html; charset=utf-8" ∨
        response.contentType = ascii "application/json; charset=utf-8" ∧
          successStart <+: response.body)) ∨
    exists code message, message.length < 256 ∧
      response = errorResponse code message

def Answers (answer : Option HttpResponse) : Prop :=
  exists response, answer = some response ∧ SaysHowItWent response

theorem httpStatusFromEngineError_cases (code : SqlEngineErrorCode) :
    400 ≤ httpStatusFromEngineError code ∧
      httpStatusFromEngineError code < 600 := by
  cases code
  all_goals decide

theorem error_answers {code : SqlEngineErrorCode} {message : Bytes}
    (h : message.length < 256) : Answers (httpResponseSetError code message) :=
  ⟨_, httpResponseSetError_fits code h, .inr ⟨code, message, h, rfl⟩⟩

theorem decimalInt_length (n : CInt) : (decimalInt n.value).length ≤ 11 := by
  have habs : n.value.natAbs < 10 ^ 10 := by
    have hlower := n.lower
    have hupper := n.upper
    unfold intMin at hlower
    unfold intMax at hupper
    omega
  have hdigits : (decimalNat n.value.natAbs).length ≤ 10 := by
    unfold decimalNat
    rw [List.length_map]
    exact (Nat.length_toDigits_le_iff (by decide) (by decide)).mpr habs
  unfold decimalInt
  split
  · rw [List.length_append]
    change 1 + _ ≤ 11
    omega
  · omega

theorem apiHandleRoot_answers (request : HttpRequest) (context : ApiContext) :
    Answers (apiHandleRoot request context) := by
  have hworkers := decimalInt_length context.workerCount
  have hdepth := decimalInt_length context.queueDepth
  have hfits := page_length
  unfold apiHandleRoot
  split
  · exact error_answers (by decide)
  · simp only [List.length_append]
    rw [if_neg (by omega)]
    exact ⟨_, rfl, .inl ⟨rfl, .inl rfl⟩⟩

theorem apiHandleHealth_answers (request : HttpRequest) (context : ApiContext) :
    Answers (apiHandleHealth request context) := by
  have hworkers := decimalInt_length context.workerCount
  have hdepth := decimalInt_length context.queueDepth
  have hfixed : (ascii "\x7b\"ok\":true,\"status\":\"ok\",\"worker_count\":").length +
      (ascii ",\"queue_depth\":").length + (ascii "\x7d").length ≤ 128 := by
    decide
  have hfits : (healthBody context).length < healthBodySize := by
    unfold healthBody healthBodySize
    simp only [List.length_append]
    omega
  have hstart : successStart <+:
      ascii "\x7b\"ok\":true,\"status\":\"ok\",\"worker_count\":" := by
    decide
  unfold apiHandleHealth
  split
  · exact error_answers (by decide)
  · rw [if_neg (Nat.not_le.mpr hfits)]
    refine ⟨_, rfl, .inl ⟨rfl, .inr ⟨rfl, ?_⟩⟩⟩
    show successStart <+: healthBody context
    unfold healthBody
    rw [List.append_assoc, List.append_assoc, List.append_assoc]
    exact hstart.trans (List.prefix_append _ _)

theorem resultResponse_answers (result : SqlEngineAdapterResult) :
    Answers (resultResponse result) := by
  have hstart : successStart <+:
      ascii "\x7b\"ok\":true,\"statement_type\":\"" := by
    decide
  unfold resultResponse
  split
  · refine ⟨_, rfl, .inl ⟨rfl, .inr ⟨rfl, ?_⟩⟩⟩
    show successStart <+: buildSuccessBody result _ _
    unfold buildSuccessBody
    simp only [List.append_assoc]
    exact hstart.trans (List.prefix_append _ _)
  · exact error_answers (buildUserErrorMessage_length _ _)

theorem httpRouteRequest_answers (environment : CallEnvironment)
    (acquireError : Option Bytes) (request : HttpRequest) (context : ApiContext)
    (world : World) :
    Answers
      (httpRouteRequest environment acquireError request context world).2 := by
  unfold httpRouteRequest
  split
  · split
    · dsimp only
      exact error_answers (by decide)
    · exact apiHandleRoot_answers request context
  · split
    · split
      · dsimp only
        exact error_answers (by decide)
      · exact apiHandleHealth_answers request context
    · split
      · split
        · dsimp only
          exact error_answers (by decide)
        · unfold apiHandleQuery
          cases hquery : querySql request with
          | error refused =>
              rcases refused with ⟨code, text⟩
              exact error_answers (querySql_error hquery).2
          | ok sql => exact resultResponse_answers _
      · dsimp only
        exact error_answers (by decide)

theorem httpRouteRequest_world {environment : CallEnvironment}
    {acquireError : Option Bytes} {request : HttpRequest} {context : ApiContext}
    {world : World} :
    (httpRouteRequest environment acquireError request context world).1 =
        world ∨
      exists sql, request.method = ascii "POST" ∧ request.path = ascii "/query" ∧
        querySql request = .ok sql ∧
          httpRouteRequest environment acquireError request context world =
            ((sqlEngineAdapterExecute context.dbService environment acquireError
                (some sql) world).1,
              resultResponse
                (sqlEngineAdapterExecute context.dbService environment acquireError
                  (some sql) world).2) := by
  unfold httpRouteRequest
  split
  · left
    split
    all_goals rfl
  · split
    · left
      split
      all_goals rfl
    · split
      · next hpath =>
          split
          · exact .inl rfl
          · next hmethod =>
              unfold apiHandleQuery
              cases hquery : querySql request with
              | error refused => exact .inl rfl
              | ok sql =>
                  exact .inr ⟨sql, not_not.mp hmethod, hpath, rfl, rfl⟩
      · exact .inl rfl

end Api
end SqlCsvServer
