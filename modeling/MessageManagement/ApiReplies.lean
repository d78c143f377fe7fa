/-
This file models what the API says to a request that fails, and under which
correlation id: the two places that choose the id, and the filter that turns
whatever was thrown into a reply.

Only an `HttpException` and a `SearchUnavailableError` are told to the client in
their own words; anything else is an internal server error.
-/

import MessageManagement.ApiKeys
import MessageManagement.EventFormat
import MessageManagement.ListPage
import MessageManagement.SearchPages

namespace MessageManagement

/-! ### The correlation id -/

def CORRELATION_ID_HEADER : JsString := jsString "x-correlation-id"

/-- What the API reads of a request. `header` answers by the lower-case name; the two UUIDs are what
`randomUUID` returns to the logger and to the middleware. -/
structure HttpRequest where
  header : JsString → Option JsString
  url : JsString
  requestUuid : JsString
  correlationUuid : JsString

namespace HttpRequest

/-- The `request.id` that the logger sets. -/
def genReqId (request : HttpRequest) : JsString :=
  (request.header CORRELATION_ID_HEADER).getD request.requestUuid

/-- The id of the context that `CorrelationIdMiddleware` runs the request in, and of the response
header. -/
def resolveCorrelationId (request : HttpRequest) : JsString :=
  if (trim request.genReqId).length > 0 then request.genReqId
  else
    match request.header CORRELATION_ID_HEADER with
    | none => request.correlationUuid
    | some header =>
      if (trim header).length > 0 then trim header else request.correlationUuid

/-- A request keeps the id it comes with, unless that is blank. -/
theorem resolveCorrelationId_header {request : HttpRequest} {header : JsString}
    (given : request.header CORRELATION_ID_HEADER = some header) (worded : trim header ≠ []) :
    request.resolveCorrelationId = header := by
  have id : request.genReqId = header := by
    rw [genReqId, given, Option.getD_some]
  rw [resolveCorrelationId, id, if_pos (List.length_pos_iff.mpr worded)]

/-- No request has a blank id, whatever its header. -/
theorem trim_resolveCorrelationId {request : HttpRequest}
    (worded : trim request.correlationUuid ≠ []) : trim request.resolveCorrelationId ≠ [] := by
  unfold resolveCorrelationId
  split
  · rename_i positive
    exact List.length_pos_iff.mp positive
  · rename_i blank
    split
    · exact worded
    · rename_i header given
      split
      · -- The header is the id that was blank.
        rename_i positive
        rw [genReqId, given, Option.getD_some] at blank
        exact absurd positive blank
      · exact worded

end HttpRequest

/-! ### Exceptions -/

/-- The `message` of an error body. -/
inductive ErrorMessage
  | text (value : JsString)
  | list (values : List JsString)

/-- What `getResponse()` returns: a string, or an object with these properties. -/
inductive ExceptionResponse
  | text (value : JsString)
  | object (error : Option JsString) (message : Option ErrorMessage)

structure HttpException where
  status : Nat
  name : JsString
  message : JsString
  response : ExceptionResponse

/-- Anything that is thrown while a request is handled. -/
inductive ApiException
  | searchUnavailable (error : SearchUnavailableError)
  | http (exception : HttpException)
  | other (value : ThrownValue)

/-- `new UnauthorizedException(message)`. -/
def UnauthorizedException.exception (refused : UnauthorizedException) : HttpException where
  status := 401
  name := jsString "UnauthorizedException"
  message := refused.message
  response := .object (some (jsString "Unauthorized")) (some (.text refused.message))

/-- `new BadRequestException(message)`. -/
def BadRequestException.exception (refused : BadRequestException) : HttpException where
  status := 400
  name := jsString "BadRequestException"
  message := refused.message
  response := .object (some (jsString "Bad Request")) (some (.text refused.message))

/-- The `BadRequestException` of the `ValidationPipe`. -/
def validationException (messages : List JsString) : HttpException where
  status := 400
  name := jsString "BadRequestException"
  message := jsString "Bad Request Exception"
  response := .object (some (jsString "Bad Request")) (some (.list messages))

/-! ### The filter -/

structure ErrorBody where
  error : JsString
  message : ErrorMessage
  statusCode : Nat

def getStatusCode : ApiException → Nat
  | .searchUnavailable _ => 503
  | .http exception => exception.status
  | .other _ => 500

def getErrorBody (exception : ApiException) (statusCode : Nat) : ErrorBody :=
  match exception with
  | .searchUnavailable error =>
    { error := jsString "Service Unavailable", message := .text error.message, statusCode }
  | .other _ =>
    { error := jsString "Internal Server Error"
      message := .text (jsString "Internal server error")
      statusCode }
  | .http exception =>
    match exception.response with
    | .object error message =>
      { error := error.getD exception.name
        message := message.getD (.text exception.message)
        statusCode }
    | .text response => { error := exception.name, message := .text response, statusCode }

/-- The body of an error reply. -/
structure ErrorReply extends ErrorBody where
  correlationId : Option JsString
  path : JsString
  timestamp : JsString

/-- `catch`: the status of the reply and its body. `contextId` is the id of the context the
exception is caught in. -/
def catchException (contextId : Option JsString) (request : HttpRequest) (now : JsDate)
    (exception : ApiException) : Nat × ErrorReply :=
  let statusCode := getStatusCode exception
  (statusCode,
    { getErrorBody exception statusCode with
      correlationId := contextId.orElse fun _ => request.header CORRELATION_ID_HEADER
      path := request.url
      timestamp := now.toISOString })

theorem statusCode_getErrorBody (exception : ApiException) (statusCode : Nat) :
    (getErrorBody exception statusCode).statusCode = statusCode := by
  unfold getErrorBody
  split
  · rfl
  · rfl
  · split
    · rfl
    · rfl

/-- What was thrown is not told, unless it is an `HttpException` or a `SearchUnavailableError`. -/
theorem getErrorBody_other (first second : ThrownValue) (statusCode : Nat) :
    getErrorBody (.other first) statusCode = getErrorBody (.other second) statusCode := rfl

end MessageManagement
