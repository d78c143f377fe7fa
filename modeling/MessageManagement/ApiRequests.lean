/-
This file models the API as it handles any number of requests at once: correlation
id, guard, validation, controller and service, and the reply.

Whatever the requests are and however their steps interleave, only a request with a
configured key and a valid body writes; it writes the message of that body and an
event under the request's correlation id, and a reply with status 201 is about the
message that was committed. A request that is refused has written nothing.

What the database and Elasticsearch answer is chosen by the step, and so are the
texts of the validators. An exception is one step: it says what was thrown, and the
filter says what becomes of it. The JSON parser of Express comes before everything
else, the correlation id included: a body it objects to is answered under the id of
the header, if there is one.
-/

import MessageManagement.ApiReplies
import MessageManagement.Library.Numbers

namespace MessageManagement

variable {Call Instance Number : Type}

/-! ### Requests -/

/-- A parameter of a query string: its text, or an array or object of several. -/
inductive QueryValue
  | text (value : JsString)
  | several

/-- The properties of a posted body: those of the DTO, and the names of all others. -/
structure PostedBody (Number : Type) where
  properties : CreateMessageBody Number
  others : List JsString

structure ListMessagesParameters where
  limit : Option QueryValue
  cursor : Option QueryValue
  sortOrder : Option QueryValue
  others : List JsString

structure SearchMessagesParameters where
  q : Option QueryValue
  page : Option QueryValue
  limit : Option QueryValue
  others : List JsString

/-- The routes of the two message controllers, with what they are given. -/
inductive ApiRoute (Number : Type)
  | create (body : PostedBody Number)
  | list (conversationId : JsString) (parameters : ListMessagesParameters)
  | search (conversationId : JsString) (parameters : SearchMessagesParameters)

/-- What the JSON parser throws for a body: a `SyntaxError`, of which Nest makes a
`BadRequestException`, or anything else, such as the error of a body that is too large. -/
inductive BodyError
  | malformed (message : JsString)
  | other (thrown : ThrownValue)

def BodyError.exception : BodyError → ApiException
  | .malformed message => .http (BadRequestException.exception ⟨message⟩)
  | .other thrown => .other thrown

/-- With a `bodyError` the request does not get to its route. -/
structure ApiRequest (Number : Type) where
  http : HttpRequest
  bodyError : Option BodyError
  route : ApiRoute Number

/-! ### Validation -/

/-- How numbers are read from text, how validators count the characters of a text, and the names
that the transformation to a DTO leaves out wherever they occur: those every object inherits, like
`toString`, and `prototype`. -/
structure Validators where
  number : JsString → NumberValue
  maxLength : JsString → Nat → Bool
  leavesOut : JsString → Bool

namespace Validators

variable [JsNumber Number]

/-- `@IsOptional() @Type(() => Number) @IsInt() @Min(1) @Max(most)`; the outer `none` is an
objection. -/
def validateInteger (validators : Validators) (most : Nat) :
    Option QueryValue → Option (Option Nat)
  | none => some none
  | some (.text value) => ((validators.number value).naturalWithin 1 (some most)).map some
  | some .several => none

/-- `@IsOptional() @IsString()`. -/
def validateCursor : Option QueryValue → Option (Option JsString)
  | none => some none
  | some (.text value) => some (some value)
  | some .several => none

/-- `@IsOptional() @IsIn(['asc', 'desc'])`. -/
def validateSortOrder : Option QueryValue → Option (Option MessageSortOrder)
  | none => some none
  | some (.text value) =>
    if value = MessageSortOrder.asc.text then some (some .asc)
    else if value = MessageSortOrder.desc.text then some (some .desc)
    else none
  | some .several => none

/-- `forbidNonWhitelisted`: a property that the DTO does not have is an objection, unless the
transformation left it out. -/
def whitelists (validators : Validators) (others : List JsString) : Bool :=
  others.all validators.leavesOut

mutual

/-- What the transformation makes of a value. -/
def plainToInstance (validators : Validators) : Json Number → Json Number
  | .null => .null
  | .bool value => .bool value
  | .number value => .number value
  | .string value => .string value
  | .array elements => .array (validators.plainToInstances elements)
  | .object fields => .object (validators.plainToFields fields)

def plainToInstances (validators : Validators) : List (Json Number) → List (Json Number)
  | [] => []
  | value :: rest => validators.plainToInstance value :: validators.plainToInstances rest

def plainToFields (validators : Validators) :
    List (JsString × Json Number) → List (JsString × Json Number)
  | [] => []
  | (key, value) :: rest =>
    if validators.leavesOut key then validators.plainToFields rest
    else (key, validators.plainToInstance value) :: validators.plainToFields rest

end

variable (Number) in
/-- `ConversationIdParamDto`. -/
def validateConversationId (validators : Validators) (conversationId : JsString) :
    Option JsString :=
  validateId validators.maxLength (some (.string conversationId : Json Number))

variable (Number) in
/-- `@IsString() @IsNotEmpty() @MaxLength(256)` on the trimmed `q`. -/
def validateQ (validators : Validators) : Option QueryValue → Option JsString
  | some (.text value) =>
    validateString validators.maxLength 256 (fun _ => true) (some (.string value : Json Number))
  | _ => none

/-- The other properties must be strings, which the transformation leaves as they are. -/
def validateBody (validators : Validators) (body : PostedBody Number) :
    Option (CreateMessageDto Number) :=
  if validators.whitelists body.others then
    validateCreateMessage validators.maxLength
      { body.properties with
        metadata := body.properties.metadata.map validators.plainToInstance }
  else none

variable (Number) in
/-- The query that the controller makes of `ListMessagesQueryDto`. -/
def validateList (validators : Validators) (conversationId : JsString)
    (parameters : ListMessagesParameters) : Option ListMessagesQuery :=
  (validators.validateConversationId Number conversationId).bind fun conversationId =>
    (validators.validateInteger 100 parameters.limit).bind fun limit =>
      (validateCursor parameters.cursor).bind fun cursor =>
        (validateSortOrder parameters.sortOrder).bind fun sortOrder =>
          if validators.whitelists parameters.others then
            some { conversationId, limit, cursor, sortOrder }
          else none

variable (Number) in
/-- The query of `SearchMessagesService.execute` for a `SearchMessagesQueryDto`. -/
def validateSearch (validators : Validators) (conversationId : JsString)
    (parameters : SearchMessagesParameters) : Option SearchMessagesQuery :=
  (validators.validateConversationId Number conversationId).bind fun conversationId =>
    (validateQ Number validators parameters.q).bind fun q =>
      (validators.validateInteger 100 parameters.page).bind fun page =>
        (validators.validateInteger 50 parameters.limit).bind fun limit =>
          if validators.whitelists parameters.others then
            some { conversationId, q, page := page.getD 1, limit := limit.getD 20 }
          else none

end Validators

/-! ### Replies -/

structure ListMessagesResponse (Number : Type) where
  data : List (MessageResponse Number)
  pagination : ListPagination

def mapListMessagesResponse (result : ListMessagesResult Number) : ListMessagesResponse Number where
  data := result.data.map mapMessageResponse
  pagination := result.pagination

inductive ApiReply (Number : Type)
  | created (response : MessageResponse Number)
  | listed (response : ListMessagesResponse Number)
  | found (response : SearchMessagesResponse Number)
  | failed (status : Nat) (body : ErrorReply)

def ApiReply.status : ApiReply Number → Nat
  | .created _ => 201
  | .listed _ => 200
  | .found _ => 200
  | .failed status _ => status

/-- The correlation id of the context the request is handled in. -/
def ApiRequest.contextId (request : ApiRequest Number) : Option JsString :=
  match request.bodyError with
  | some _ => none
  | none => some request.http.resolveCorrelationId

/-- The reply of the filter to an exception. -/
def ApiRequest.fail (request : ApiRequest Number) (now : JsDate) (exception : ApiException) :
    ApiReply Number :=
  let (status, body) := catchException request.contextId request.http now exception
  .failed status body

/-- `SearchMessagesService.execute`, given what `searchMessages` throws or returns. -/
def executeSearchMessages (searched : Except ApiException (SearchMessagesResult Number)) :
    Except ApiException (SearchMessagesResult Number) :=
  match searched with
  | .ok result => .ok result
  | .error (.searchUnavailable error) => .error (.searchUnavailable error)
  | .error _ => .error (.searchUnavailable ⟨jsString "Search is temporarily unavailable"⟩)

/-! ### The API -/

/-- Where a request is: in its service, or replied to. -/
inductive RequestPhase (Number : Type)
  | creating
  | listing (query : ListMessagesQuery)
  | searching (query : SearchMessagesQuery)
  | replied (reply : ApiReply Number)

structure RequestState (Number : Type) where
  request : ApiRequest Number
  phase : RequestPhase Number

/-- A running API: what it was started with. -/
structure Api where
  config : PublisherConfig
  guard : ApiKeyGuard
  sha256 : Bytes → List.Vector UInt8 32
  validators : Validators
  runtime : JsRuntime

/-- The database, and the requests received so far. -/
structure ApiState (Call Instance Number : Type) where
  store : MessageStore Call Instance Number
  requests : Call → Option (RequestState Number)

def ApiState.initial : ApiState Call Instance Number where
  store := .initial
  requests _ := none

/-- `receive` is everything up to the service; `objections` are the texts of the validators, should
they object. `execute` is a step of a call of the create service, or another operation on the
outbox. The others end a request: `respond` one whose service settled, with what a rejected one was
rejected with; `query` and `search` by what the database or Elasticsearch returns or throws. -/
inductive ApiLabel (Call Instance Number : Type)
  | receive (call : Call) (request : ApiRequest Number) (objections : List JsString) (now : JsDate)
  | execute (action : ExecuteAction Call Instance Number)
  | respond (call : Call) (thrown : ThrownValue) (now : JsDate)
  | query (call : Call) (thrown : Option ThrownValue) (now : JsDate)
  | search (call : Call) (answer : Except ThrownValue (EsSearchResponse Number)) (now : JsDate)

/-- The controllers are not public. -/
def ApiRequest.context (request : ApiRequest Number) : ExecutionContext where
  request := { header := request.http.header, apiKeyName := none }
  handlerPublic := none
  classPublic := none

/-- The guard lets the request pass. -/
def Api.admits (api : Api) (request : ApiRequest Number) : Bool :=
  match api.guard.canActivate api.sha256 request.context with
  | .ok _ => true
  | .error _ => false

section Steps

variable [JsNumber Number] [DecidableEq Call] [DecidableEq Instance]

/-- How a request goes on: with a DTO to create a message from, elsewhere, or not at all. -/
inductive Admission (Number : Type)
  | create (dto : CreateMessageDto Number)
  | other (phase : RequestPhase Number)

/-- The validators of the route. -/
def ApiRequest.validated (api : Api) (request : ApiRequest Number) :
    Option (Admission Number) :=
  match request.route with
  | .create body => (api.validators.validateBody body).map .create
  | .list conversationId parameters =>
    (api.validators.validateList Number conversationId parameters).map fun query =>
      .other (.listing query)
  | .search conversationId parameters =>
    (api.validators.validateSearch Number conversationId parameters).map fun query =>
      .other (.searching query)

/-- The parser of the body, the guard and the validators, up to the first that objects. -/
def ApiRequest.admission (api : Api) (request : ApiRequest Number) (objections : List JsString)
    (now : JsDate) : Admission Number :=
  let refused exception := .other (.replied (request.fail now exception))
  match request.bodyError with
  | some error => refused error.exception
  | none =>
    match api.guard.canActivate api.sha256 request.context with
    | .error unauthorized => refused (.http unauthorized.exception)
    | .ok _ =>
      match request.validated api with
      | some admission => admission
      | none => refused (.http (validationException objections))

def ApiState.setRequest (call : Call) (request : RequestState Number)
    (state : ApiState Call Instance Number) : ApiState Call Instance Number :=
  { state with requests := Function.update state.requests call (some request) }

/-- The reply to a list request, by what its query threw, if it was sent and threw. -/
def Api.listReply (api : Api) (request : ApiRequest Number) (query : ListMessagesQuery)
    (messages : MessageCollection Number) (thrown : Option ThrownValue) (now : JsDate) :
    ApiReply Number :=
  let execution := executeListMessages api.runtime query messages
  match execution.outcome, thrown with
  | .error (.badRequest refused), _ => request.fail now (.http refused.exception)
  | .error (.bsonError text), _ => request.fail now (.other (.error text))
  | .ok _, some thrown => request.fail now (.other thrown)
  | .ok result, none => .listed (mapListMessagesResponse result)

/-- The reply to a search request. An Invalid Date among the hits is a `RangeError`. -/
def Api.searchReply (api : Api) (request : ApiRequest Number) (query : SearchMessagesQuery)
    (answer : Except ThrownValue (EsSearchResponse Number)) (now : JsDate) : ApiReply Number :=
  match executeSearchMessages
    ((searchMessages api.runtime (fun _ => answer) query).mapError .searchUnavailable) with
  | .error exception => request.fail now exception
  | .ok result =>
    match mapSearchMessagesResponse result with
    | some response => .found response
    | none => request.fail now (.other (.error (jsString "Invalid time value")))

def apiStep (saving : Saving Number) (api : Api)
    (state : ApiState Call Instance Number) :
    ApiLabel Call Instance Number → Option (ApiState Call Instance Number)
  | .receive call request objections now =>
    match state.requests call with
    | some _ => none
    | none =>
      match request.admission api objections now with
      | .other phase => some (state.setRequest call { request, phase })
      | .create dto =>
        (executeStep saving api.config state.store
          (.start call (dto.command request.http.resolveCorrelationId) now)).map fun store =>
            { state with store }.setRequest call { request, phase := .creating }
  | .execute (.start _ _ _) => none
  | .execute action =>
    (executeStep saving api.config state.store action).map fun store => { state with store }
  | .respond call thrown now =>
    match state.requests call, state.store.calls call with
    | some ⟨request, .creating⟩, some ⟨_, _, .resolved _ returned⟩ =>
      some (state.setRequest call
        { request, phase := .replied (.created (mapMessageResponse returned)) })
    | some ⟨request, .creating⟩, some ⟨_, _, .rejected _⟩ =>
      some (state.setRequest call
        { request, phase := .replied (request.fail now (.other thrown)) })
    | _, _ => none
  | .query call thrown now =>
    match state.requests call with
    | some ⟨request, .listing query⟩ =>
      some (state.setRequest call
        { request
          phase := .replied (api.listReply request query state.store.messages thrown now) })
    | _ => none
  | .search call answer now =>
    match state.requests call with
    | some ⟨request, .searching query⟩ =>
      some (state.setRequest call
        { request, phase := .replied (api.searchReply request query answer now) })
    | _ => none

/-! ### What the create service does between requests -/

/-- The action starts no call. -/
def ExecuteAction.continues : ExecuteAction Call Instance Number → Bool
  | .start _ _ _ => false
  | _ => true

/-- What a step does to the calls: nothing, or one that has not resolved goes on with its
command. -/
inductive CallsMove (store : MessageStore Call Instance Number) :
    MessageStore Call Instance Number → Prop
  | kept {next} (same : next.calls = store.calls) : CallsMove store next
  | moved {next call before after} (was : store.calls call = some before)
      (unresolved : before.phase.isResolved = false) (command : after.command = before.command)
      (becomes : next.calls = Function.update store.calls call (some after)) :
      CallsMove store next

omit [JsNumber Number] [DecidableEq Instance] in
theorem calls_setCall (store : MessageStore Call Instance Number) (call : Call)
    (execution : Execution Number) :
    (store.setCall call execution).calls = Function.update store.calls call (some execution) := by
  funext other
  rw [Function.update_apply]
  rfl

omit [JsNumber Number] [DecidableEq Instance] in
/-- A call goes on from one phase to another. -/
theorem CallsMove.of_setCall {store written : MessageStore Call Instance Number} {call : Call}
    {before after : Execution Number} (was : store.calls call = some before)
    (live : before.phase.isDone = false) (calls : written.calls = store.calls)
    (command : after.command = before.command) :
    CallsMove store (written.setCall call after) := by
  rw [ExecutePhase.isDone, Bool.or_eq_false_iff] at live
  refine .moved was live.1 command ?_
  rw [calls_setCall, calls]

theorem executeStep_calls {saving : Saving Number} {config : PublisherConfig}
    {store next : MessageStore Call Instance Number}
    {action : ExecuteAction Call Instance Number} (continues : action.continues = true)
    (moved : executeStep saving config store action = some next) : CallsMove store next := by
  cases executeStep_move moved with
  | unchanged => exact .kept rfl
  | started => exact absurd continues Bool.false_ne_true
  | moved call phase goesOn was live => exact .of_setCall was live rfl rfl
  | committed call phase goesOn was live outstanding wrote =>
    exact .of_setCall was live (commit_eq_some wrote).2.2.1 rfl
  | failed call was live => exact .of_setCall was live rfl rfl
  | maintained => exact .kept rfl

omit [JsNumber Number] [DecidableEq Instance] in
/-- A call that there is after a step was there, with the command it has. -/
theorem CallsMove.was {store next : MessageStore Call Instance Number}
    (moved : CallsMove store next) {call : Call} {after : Execution Number}
    (stored : next.calls call = some after) :
    ∃ before, store.calls call = some before ∧ after.command = before.command := by
  cases moved with
  | kept same => exact ⟨after, same ▸ stored, rfl⟩
  | @moved actor before later was unresolved command becomes =>
    rw [becomes] at stored
    by_cases own : call = actor
    · rw [own, Function.update_self, Option.some_inj] at stored
      exact ⟨before, own ▸ was, stored ▸ command⟩
    · rw [Function.update_of_ne own] at stored
      exact ⟨after, stored, rfl⟩

omit [JsNumber Number] [DecidableEq Instance] in
/-- A call that has resolved stays as it is. -/
theorem CallsMove.resolved {store next : MessageStore Call Instance Number}
    (moved : CallsMove store next) {call : Call} {execution : Execution Number}
    (stored : store.calls call = some execution) (resolved : execution.phase.isResolved = true) :
    next.calls call = some execution := by
  cases moved with
  | kept same => exact same ▸ stored
  | @moved actor before later was unresolved command becomes =>
    by_cases own : call = actor
    · rw [← own, stored, Option.some_inj] at was
      rw [← was, resolved] at unresolved
      exact absurd unresolved Bool.noConfusion
    · rw [becomes, Function.update_of_ne own]
      exact stored

omit [JsNumber Number] [DecidableEq Instance] in
theorem CallsMove.absent {store next : MessageStore Call Instance Number}
    (moved : CallsMove store next) {call : Call} (absent : store.calls call = none) :
    next.calls call = none := by
  cases stored : next.calls call with
  | none => rfl
  | some after =>
    obtain ⟨before, was, _⟩ := moved.was stored
    exact absurd (absent.symm.trans was) (Option.some_ne_none before).symm

end Steps

/-! ### What holds of a request -/

section Invariant

variable [JsNumber Number] {api : Api}

/-- The body of the request is JSON, the request passed the guard and its body the validators, and
this is the command the controller made of it. -/
def Submitted (api : Api) (request : ApiRequest Number) (command : CreateMessageCommand Number) :
    Prop :=
  (request.bodyError = none ∧ api.admits request = true) ∧ ∃ body dto,
    request.route = .create body ∧ api.validators.validateBody body = some dto ∧
      command = dto.command request.http.resolveCorrelationId

/-- The statuses of error replies, and what their `error` says. -/
def errorStatuses : List (Nat × JsString) :=
  [(400, jsString "Bad Request"), (401, jsString "Unauthorized"),
    (500, jsString "Internal Server Error"), (503, jsString "Service Unavailable")]

def ApiRoute.isSearch : ApiRoute Number → Bool
  | .search _ _ => true
  | _ => false

/-- An error reply has one of the statuses of the API and repeats it. It has the correlation id of
the request, or for a body that is no JSON the one of the header. One of 500 tells only that the
error is internal; one of 503 is to a search. -/
structure TellsError (request : ApiRequest Number) (status : Nat) (body : ErrorReply) : Prop where
  known : (status, body.error) ∈ errorStatuses
  statusCode : body.statusCode = status
  correlationId : request.bodyError = none →
    body.correlationId = some request.http.resolveCorrelationId
  unparsed : request.bodyError ≠ none →
    body.correlationId = request.http.header CORRELATION_ID_HEADER
  internal : status = 500 → body.message = .text (jsString "Internal server error")
  unavailable : status = 503 → request.route.isSearch = true

/-- What a reply says of the database. -/
def ReplySound (store : MessageStore Call Instance Number) (call : Call)
    (request : ApiRequest Number) : ApiReply Number → Prop
  | .created response => ∃ execution inserts returned, store.calls call = some execution ∧
      execution.phase = .resolved inserts returned ∧ response = mapMessageResponse returned
  | .listed response => response.data.length ≤ 100
  | .found _ => True
  | .failed status body =>
    TellsError request status body ∧ (status < 500 → store.calls call = none)

/-- What holds of a request in its phase. -/
def PhaseSound (store : MessageStore Call Instance Number) (call : Call)
    (request : ApiRequest Number) : RequestPhase Number → Prop
  | .creating => True
  | .listing query => (∀ limit, query.limit = some limit → limit ≤ 100) ∧ store.calls call = none
  | .searching query =>
    (1 ≤ query.page ∧ query.page ≤ 100 ∧ 1 ≤ query.limit ∧ query.limit ≤ 50) ∧
      request.route.isSearch = true ∧ store.calls call = none
  | .replied reply => ReplySound store call request reply

/-- What holds in every state of the API. -/
structure ApiInvariant (saving : Saving Number) (api : Api)
    (state : ApiState Call Instance Number) [DecidableEq Call] : Prop where
  store : PairInvariant saving state.store
  submitted : ∀ call execution, state.store.calls call = some execution →
    ∃ request phase, state.requests call = some ⟨request, phase⟩ ∧
      Submitted api request execution.command
  phases : ∀ call request phase, state.requests call = some ⟨request, phase⟩ →
    PhaseSound state.store call request phase

/-- What is thrown while a request is handled. -/
inductive ThrownFor (request : ApiRequest Number) : ApiException → Prop
  | unavailable (error : SearchUnavailableError) (searches : request.route.isSearch = true) :
      ThrownFor request (.searchUnavailable error)
  | unauthorized (refused : UnauthorizedException) : ThrownFor request (.http refused.exception)
  | badRequest (refused : BadRequestException) : ThrownFor request (.http refused.exception)
  | validation (messages : List JsString) :
      ThrownFor request (.http (validationException messages))
  | other (value : ThrownValue) : ThrownFor request (.other value)

omit [JsNumber Number] in
theorem thrownFor_bodyError (request : ApiRequest Number) (error : BodyError) :
    ThrownFor request error.exception := by
  cases error with
  | malformed message => exact .badRequest ⟨message⟩
  | other thrown => exact .other thrown

omit [JsNumber Number] in
/-- The id an error reply has. -/
theorem correlationId_catchException (request : ApiRequest Number) (now : JsDate)
    (exception : ApiException) :
    (request.bodyError = none →
      (catchException request.contextId request.http now exception).2.correlationId =
        some request.http.resolveCorrelationId) ∧
    (request.bodyError ≠ none →
      (catchException request.contextId request.http now exception).2.correlationId =
        request.http.header CORRELATION_ID_HEADER) := by
  unfold catchException ApiRequest.contextId
  cases request.bodyError with
  | none => exact ⟨fun _ => rfl, fun unparsed => absurd rfl unparsed⟩
  | some error => exact ⟨fun parsed => absurd parsed (Option.some_ne_none error), fun _ => rfl⟩

omit [JsNumber Number] in
theorem exists_fail (request : ApiRequest Number) (now : JsDate) {exception : ApiException}
    (thrown : ThrownFor request exception) :
    ∃ body, request.fail now exception = .failed (getStatusCode exception) body ∧
      TellsError request (getStatusCode exception) body := by
  obtain ⟨correlationId, unparsed⟩ := correlationId_catchException request now exception
  refine ⟨_, rfl, ?_, statusCode_getErrorBody _ _, correlationId, unparsed, fun internal => ?_,
    fun unavailable => ?_⟩
  · cases thrown with
    | unavailable => exact .tail _ (.tail _ (.tail _ (.head _)))
    | unauthorized => exact .tail _ (.head _)
    | badRequest => exact .head _
    | validation => exact .head _
    | other => exact .tail _ (.tail _ (.head _))
  · cases thrown with
    | other value => exact rfl
    | unavailable => exact absurd internal (show (503 : Nat) ≠ 500 by decide)
    | unauthorized => exact absurd internal (show (401 : Nat) ≠ 500 by decide)
    | badRequest => exact absurd internal (show (400 : Nat) ≠ 500 by decide)
    | validation => exact absurd internal (show (400 : Nat) ≠ 500 by decide)
  · cases thrown with
    | unavailable error searches => exact searches
    | other value => exact absurd unavailable (show (500 : Nat) ≠ 503 by decide)
    | unauthorized => exact absurd unavailable (show (401 : Nat) ≠ 503 by decide)
    | badRequest => exact absurd unavailable (show (400 : Nat) ≠ 503 by decide)
    | validation => exact absurd unavailable (show (400 : Nat) ≠ 503 by decide)

omit [JsNumber Number] in
/-- An error reply to a request that has called no create service. -/
theorem replySound_fail {store : MessageStore Call Instance Number} {call : Call}
    (absent : store.calls call = none) (request : ApiRequest Number) (now : JsDate)
    {exception : ApiException} (thrown : ThrownFor request exception) :
    ReplySound store call request (request.fail now exception) := by
  obtain ⟨body, isFailed, tells⟩ := exists_fail request now thrown
  rw [isFailed]
  exact ⟨tells, fun _ => absent⟩

/-- A call that returns returns what `listMessages` does. -/
theorem listMessages_of_outcome {runtime : JsRuntime} {query : ListMessagesQuery}
    {messages : MessageCollection Number} {result : ListMessagesResult Number}
    (listed : (executeListMessages runtime query messages).outcome = .ok result) :
    listMessages runtime query messages = .ok result := by
  unfold executeListMessages at listed
  split at listed
  · cases listed
  · split at listed
    · cases listed
    · dsimp only at listed
      cases outcome : listMessages runtime query messages with
      | error refused =>
        rw [outcome] at listed
        cases listed
      | ok found =>
        rw [outcome] at listed
        rw [Except.ok.inj listed]

theorem length_listMessages {runtime : JsRuntime} {query : ListMessagesQuery}
    {messages : MessageCollection Number} {result : ListMessagesResult Number}
    (listed : (executeListMessages runtime query messages).outcome = .ok result) :
    result.data.length ≤ query.limit.getD 20 := by
  have listed := listMessages_of_outcome listed
  unfold listMessages at listed
  dsimp only at listed
  cases decoded : decodeQueryCursor Number runtime (query.sortOrder.getD .desc) query.cursor with
  | error refused =>
    rw [decoded] at listed
    cases listed
  | ok after =>
    rw [decoded] at listed
    rw [← Except.ok.inj listed]
    exact List.length_take_le _ _

/-- A list request is answered with no more messages than it asked for, or with an error. -/
theorem replySound_list {store : MessageStore Call Instance Number} {call : Call}
    (absent : store.calls call = none) (request : ApiRequest Number) {query : ListMessagesQuery}
    (bounded : ∀ limit, query.limit = some limit → limit ≤ 100) (thrown : Option ThrownValue)
    (now : JsDate) :
    ReplySound store call request
      (api.listReply request query store.messages thrown now) := by
  unfold Api.listReply
  dsimp only
  split
  · exact replySound_fail absent request now (.badRequest _)
  · exact replySound_fail absent request now (.other _)
  · exact replySound_fail absent request now (.other _)
  · rename_i result listed
    have most : query.limit.getD 20 ≤ 100 := by
      cases given : query.limit with
      | none => exact (show (20 : Nat) ≤ 100 by decide)
      | some limit => exact bounded limit given
    show (result.data.map mapMessageResponse).length ≤ 100
    rw [List.length_map]
    exact le_trans (length_listMessages listed) most

omit [JsNumber Number] in
/-- Whatever Elasticsearch does, the service throws a `SearchUnavailableError` or nothing. -/
theorem executeSearchMessages_error {searched : Except ApiException (SearchMessagesResult Number)}
    {exception : ApiException} (thrown : executeSearchMessages searched = .error exception) :
    ∃ error, exception = .searchUnavailable error := by
  unfold executeSearchMessages at thrown
  split at thrown
  · cases thrown
  · exact ⟨_, (Except.error.inj thrown).symm⟩
  · exact ⟨_, (Except.error.inj thrown).symm⟩

theorem replySound_search {store : MessageStore Call Instance Number} {call : Call}
    (absent : store.calls call = none) {request : ApiRequest Number}
    (searches : request.route.isSearch = true) (query : SearchMessagesQuery)
    (answer : Except ThrownValue (EsSearchResponse Number)) (now : JsDate) :
    ReplySound store call request (api.searchReply request query answer now) := by
  unfold Api.searchReply
  split
  · rename_i exception thrown
    obtain ⟨error, rfl⟩ := executeSearchMessages_error thrown
    exact replySound_fail absent request now (.unavailable error searches)
  · split
    · exact trivial
    · exact replySound_fail absent request now (.other _)

theorem validateInteger_eq_some {validators : Validators} {most : Nat} {value : Option QueryValue}
    {validated : Option Nat} (valid : validators.validateInteger most value = some validated)
    (natural : Nat) (given : validated = some natural) : 1 ≤ natural ∧ natural ≤ most := by
  subst given
  unfold Validators.validateInteger at valid
  split at valid
  · cases valid
  · obtain ⟨found, within, isFound⟩ := Option.map_eq_some_iff.mp valid
    obtain rfl := Option.some.inj isFound
    obtain ⟨_, above, below⟩ := NumberValue.naturalWithin_eq_some.mp within
    exact ⟨above, below most rfl⟩
  · cases valid

omit [JsNumber Number] in
theorem validateList_eq_some {validators : Validators} {conversationId : JsString}
    {parameters : ListMessagesParameters} {query : ListMessagesQuery}
    (valid : validators.validateList Number conversationId parameters = some query) :
    ∀ limit, query.limit = some limit → limit ≤ 100 := by
  obtain ⟨_, _, valid⟩ := Option.bind_eq_some_iff.mp valid
  obtain ⟨limit, within, valid⟩ := Option.bind_eq_some_iff.mp valid
  obtain ⟨_, _, valid⟩ := Option.bind_eq_some_iff.mp valid
  obtain ⟨_, _, valid⟩ := Option.bind_eq_some_iff.mp valid
  rw [Option.ite_none_right_eq_some, Option.some_inj] at valid
  obtain ⟨_, rfl⟩ := valid
  exact fun natural given => (validateInteger_eq_some within natural given).2

omit [JsNumber Number] in
theorem validateSearch_eq_some {validators : Validators} {conversationId : JsString}
    {parameters : SearchMessagesParameters} {query : SearchMessagesQuery}
    (valid : validators.validateSearch Number conversationId parameters = some query) :
    1 ≤ query.page ∧ query.page ≤ 100 ∧ 1 ≤ query.limit ∧ query.limit ≤ 50 := by
  obtain ⟨_, _, valid⟩ := Option.bind_eq_some_iff.mp valid
  obtain ⟨_, _, valid⟩ := Option.bind_eq_some_iff.mp valid
  obtain ⟨page, pageWithin, valid⟩ := Option.bind_eq_some_iff.mp valid
  obtain ⟨limit, limitWithin, valid⟩ := Option.bind_eq_some_iff.mp valid
  rw [Option.ite_none_right_eq_some, Option.some_inj] at valid
  obtain ⟨_, rfl⟩ := valid
  have pages : 1 ≤ page.getD 1 ∧ page.getD 1 ≤ 100 := by
    cases page with
    | none => exact ⟨le_refl 1, show (1 : Nat) ≤ 100 by decide⟩
    | some natural => exact validateInteger_eq_some pageWithin natural rfl
  have limits : 1 ≤ limit.getD 20 ∧ limit.getD 20 ≤ 50 := by
    cases limit with
    | none => exact ⟨show (1 : Nat) ≤ 20 by decide, show (20 : Nat) ≤ 50 by decide⟩
    | some natural => exact validateInteger_eq_some limitWithin natural rfl
  exact ⟨pages.1, pages.2, limits⟩

/-- A request that goes on elsewhere than to the create service. -/
theorem phaseSound_admission {store : MessageStore Call Instance Number} {call : Call}
    (absent : store.calls call = none) {request : ApiRequest Number} {objections : List JsString}
    {now : JsDate} {phase : RequestPhase Number}
    (admitted : request.admission api objections now = .other phase) :
    PhaseSound store call request phase := by
  unfold ApiRequest.admission at admitted
  dsimp only at admitted
  split at admitted
  · rename_i error _
    rw [← Admission.other.inj admitted]
    exact replySound_fail absent request now (thrownFor_bodyError request error)
  · split at admitted
    · rename_i unauthorized _
      rw [← Admission.other.inj admitted]
      exact replySound_fail absent request now (.unauthorized unauthorized)
    · split at admitted
      · rename_i validated
        rw [admitted] at validated
        unfold ApiRequest.validated at validated
        split at validated
        · obtain ⟨_, _, isOther⟩ := Option.map_eq_some_iff.mp validated
          cases isOther
        · obtain ⟨query, valid, isListing⟩ := Option.map_eq_some_iff.mp validated
          rw [← Admission.other.inj isListing]
          exact ⟨validateList_eq_some valid, absent⟩
        · rename_i isSearch
          obtain ⟨query, valid, isSearching⟩ := Option.map_eq_some_iff.mp validated
          rw [← Admission.other.inj isSearching]
          exact ⟨validateSearch_eq_some valid, isSearch ▸ rfl, absent⟩
      · rw [← Admission.other.inj admitted]
        exact replySound_fail absent request now (.validation objections)

theorem admission_create {request : ApiRequest Number} {objections : List JsString} {now : JsDate}
    {dto : CreateMessageDto Number}
    (admitted : request.admission api objections now = .create dto) :
    Submitted api request (dto.command request.http.resolveCorrelationId) := by
  unfold ApiRequest.admission at admitted
  dsimp only at admitted
  split at admitted
  · cases admitted
  · rename_i parsed
    split at admitted
    · cases admitted
    · rename_i admits
      have admits : api.admits request = true := by
        rw [Api.admits, admits]
      split at admitted
      · rename_i validated
        rw [admitted] at validated
        unfold ApiRequest.validated at validated
        split at validated
        · rename_i body isCreate
          obtain ⟨found, valid, isFound⟩ := Option.map_eq_some_iff.mp validated
          rw [Admission.create.injEq] at isFound
          exact ⟨⟨parsed, admits⟩, body, dto, isCreate, isFound ▸ valid, rfl⟩
        · obtain ⟨_, _, isCreate⟩ := Option.map_eq_some_iff.mp validated
          cases isCreate
        · obtain ⟨_, _, isCreate⟩ := Option.map_eq_some_iff.mp validated
          cases isCreate
      · cases admitted

omit [JsNumber Number] in
theorem isSurrogate_of_isIdUnit {unit : UInt16} (idUnit : isIdUnit unit = true) :
    isSurrogate unit = false := by
  simp only [isIdUnit, Bool.or_eq_true, Bool.and_eq_true, decide_eq_true_eq, beq_iff_eq,
    ← UInt16.toNat_inj, UInt16.reduceToNat] at idUnit
  rw [isSurrogate, Bool.and_eq_false_iff, decide_eq_false_iff_not]
  left
  omega

omit [JsNumber Number] in
/-- An id that the validators let pass is well-formed: it matches the pattern. -/
theorem isWellFormed_of_validateId {maxLength : JsString → Nat → Bool}
    {value : Option (Json Number)} {id : JsString} (valid : validateId maxLength value = some id) :
    isWellFormed id = true := by
  unfold validateId validateString at valid
  split at valid
  · rw [Option.ite_none_right_eq_some, Option.some_inj] at valid
    obtain ⟨accepted, rfl⟩ := valid
    rw [Bool.and_eq_true] at accepted
    have matching := accepted.2
    rw [matchesIdPattern, Bool.and_eq_true, List.all_eq_true] at matching
    exact Json.Unpaired.wellFormed fun unit member =>
      isSurrogate_of_isIdUnit (matching.2 unit member)
  · cases valid

theorem isWellFormed_of_validateBody {validators : Validators} {body : PostedBody Number}
    {dto : CreateMessageDto Number} (valid : validators.validateBody body = some dto) :
    isWellFormed dto.conversationId = true ∧ isWellFormed dto.senderId = true := by
  unfold Validators.validateBody validateCreateMessage at valid
  obtain ⟨_, valid⟩ := Option.ite_none_right_eq_some.mp valid
  obtain ⟨conversationId, isConversation, valid⟩ := Option.bind_eq_some_iff.mp valid
  obtain ⟨senderId, isSender, valid⟩ := Option.bind_eq_some_iff.mp valid
  obtain ⟨content, _, valid⟩ := Option.bind_eq_some_iff.mp valid
  rw [Option.ite_none_right_eq_some, Option.some_inj] at valid
  obtain ⟨_, rfl⟩ := valid
  exact ⟨isWellFormed_of_validateId isConversation, isWellFormed_of_validateId isSender⟩

end Invariant

/-! ### Every run -/

section Runs

variable [JsNumber Number] [DecidableEq Call] [DecidableEq Instance]
  {saving : Saving Number} {api : Api} {state next : ApiState Call Instance Number}

omit [JsNumber Number] [DecidableEq Call] [DecidableEq Instance] in
/-- A request depends on the database by its own call only. -/
theorem PhaseSound.moved {store later : MessageStore Call Instance Number} {call : Call}
    {request : ApiRequest Number} {phase : RequestPhase Number}
    (sound : PhaseSound store call request phase)
    (resolved : ∀ execution, store.calls call = some execution →
      execution.phase.isResolved = true → later.calls call = some execution)
    (absent : store.calls call = none → later.calls call = none) :
    PhaseSound later call request phase := by
  cases phase with
  | creating => exact trivial
  | listing query => exact ⟨sound.1, absent sound.2⟩
  | searching query => exact ⟨sound.1, sound.2.1, absent sound.2.2⟩
  | replied reply =>
    cases reply with
    | created response =>
      obtain ⟨execution, inserts, returned, stored, isResolved, isResponse⟩ := sound
      refine ⟨execution, inserts, returned, resolved execution stored ?_, isResolved, isResponse⟩
      rw [isResolved]
      rfl
    | listed response => exact sound
    | found response => exact trivial
    | failed status body => exact ⟨sound.1, fun client => absent (sound.2 client)⟩

omit [DecidableEq Instance] in
/-- The request of a call goes on. -/
theorem ApiInvariant.setRequest (invariant : ApiInvariant saving api state) {call : Call}
    {request : ApiRequest Number} {phase : RequestPhase Number}
    (same : ∀ other before, state.requests call = some ⟨other, before⟩ → other = request)
    (sound : PhaseSound state.store call request phase) :
    ApiInvariant saving api (state.setRequest call ⟨request, phase⟩) where
  store := invariant.store
  submitted other execution stored := by
    obtain ⟨found, before, isFound, submitted⟩ := invariant.submitted other execution stored
    by_cases own : other = call
    · refine ⟨request, phase, ?_, ?_⟩
      · show Function.update state.requests call (some ⟨request, phase⟩) other = _
        rw [own, Function.update_self]
      · rw [← same found before (own ▸ isFound)]
        exact submitted
    · refine ⟨found, before, ?_, submitted⟩
      show Function.update state.requests call (some ⟨request, phase⟩) other = _
      rw [Function.update_of_ne own]
      exact isFound
  phases other found after stored := by
    have stored : Function.update state.requests call (some ⟨request, phase⟩) other =
      some ⟨found, after⟩ := stored
    by_cases own : other = call
    · rw [own, Function.update_self, Option.some_inj, RequestState.mk.injEq] at stored
      obtain ⟨rfl, rfl⟩ := stored
      exact own ▸ sound
    · rw [Function.update_of_ne own] at stored
      exact invariant.phases other found after stored

omit [DecidableEq Instance] in
/-- A request that is new has no call of the create service. -/
theorem ApiInvariant.absent (invariant : ApiInvariant saving api state) {call : Call}
    (new : state.requests call = none) : state.store.calls call = none := by
  cases stored : state.store.calls call with
  | none => rfl
  | some execution =>
    obtain ⟨_, _, isFound, _⟩ := invariant.submitted call execution stored
    exact absurd (new.symm.trans isFound) (Option.some_ne_none _).symm

/-- The create service is called for a request that the guard and the validators let pass. -/
theorem ApiInvariant.create (invariant : ApiInvariant saving api state) {call : Call}
    {request : ApiRequest Number} {command : CreateMessageCommand Number} {now : JsDate}
    {store : MessageStore Call Instance Number} (new : state.requests call = none)
    (submitted : Submitted api request command)
    (started : executeStep saving api.config state.store (.start call command now) = some store) :
    ApiInvariant saving api ({ state with store }.setRequest call ⟨request, .creating⟩) := by
  have pairs := (executeStep_move started).invariant invariant.store
  have absent := invariant.absent new
  simp only [executeStep, absent] at started
  obtain rfl := Option.some.inj started
  have others : ∀ other, other ≠ call →
      (state.store.setCall call ⟨command, now, .callback⟩).calls other =
        state.store.calls other := by
    intro other different
    rw [calls_setCall, Function.update_of_ne different]
  refine ⟨pairs, fun other execution stored => ?_, fun other found phase stored => ?_⟩
  · by_cases own : other = call
    · refine ⟨request, .creating, ?_, ?_⟩
      · show Function.update state.requests call (some ⟨request, .creating⟩) other = _
        rw [own, Function.update_self]
      · have stored : (state.store.setCall call ⟨command, now, .callback⟩).calls other =
          some execution := stored
        rw [calls_setCall, own, Function.update_self, Option.some_inj] at stored
        rw [← stored]
        exact submitted
    · obtain ⟨found, phase, isFound, submitted⟩ :=
        invariant.submitted other execution ((others other own).symm.trans stored)
      refine ⟨found, phase, ?_, submitted⟩
      show Function.update state.requests call (some ⟨request, .creating⟩) other = _
      rw [Function.update_of_ne own]
      exact isFound
  · have stored : Function.update state.requests call (some ⟨request, .creating⟩) other =
      some ⟨found, phase⟩ := stored
    by_cases own : other = call
    · rw [own, Function.update_self, Option.some_inj, RequestState.mk.injEq] at stored
      exact stored.2 ▸ trivial
    · rw [Function.update_of_ne own] at stored
      exact (invariant.phases other found phase stored).moved
        (fun execution was _ => (others other own).trans was)
        fun was => (others other own).trans was

theorem ApiInvariant.execute (invariant : ApiInvariant saving api state)
    {action : ExecuteAction Call Instance Number} (continues : action.continues = true)
    {store : MessageStore Call Instance Number}
    (moved : executeStep saving api.config state.store action = some store) :
    ApiInvariant saving api { state with store } := by
  have calls := executeStep_calls continues moved
  refine ⟨(executeStep_move moved).invariant invariant.store, fun call execution stored => ?_,
    fun call request phase stored => ?_⟩
  · obtain ⟨before, was, same⟩ := calls.was stored
    obtain ⟨request, phase, isFound, submitted⟩ := invariant.submitted call before was
    exact ⟨request, phase, isFound, same ▸ submitted⟩
  · exact (invariant.phases call request phase stored).moved
      (fun execution was isResolved => calls.resolved was isResolved) calls.absent

theorem apiStep_invariant {label : ApiLabel Call Instance Number}
    (invariant : ApiInvariant saving api state)
    (moved : apiStep saving api state label = some next) :
    ApiInvariant saving api next := by
  cases label with
  | receive call request objections now =>
    simp only [apiStep] at moved
    split at moved
    · cases moved
    · rename_i new
      split at moved
      · rename_i phase admission
        rw [← Option.some.inj moved]
        refine invariant.setRequest (fun other before stored => ?_)
          (phaseSound_admission (invariant.absent new) admission)
        exact absurd (new.symm.trans stored) (Option.some_ne_none _).symm
      · rename_i dto admission
        obtain ⟨store, started, rfl⟩ := Option.map_eq_some_iff.mp moved
        exact invariant.create new (admission_create admission) started
  | execute action =>
    cases action with
    | start => cases moved
    | _ =>
      obtain ⟨store, performed, rfl⟩ := Option.map_eq_some_iff.mp moved
      exact invariant.execute rfl performed
  | respond call thrown now =>
    simp only [apiStep] at moved
    split at moved
    · rename_i request command executed inserts returned stored resolved
      rw [← Option.some.inj moved]
      refine invariant.setRequest (fun other before found => ?_)
        ⟨_, inserts, returned, resolved, rfl, rfl⟩
      rw [stored, Option.some_inj, RequestState.mk.injEq] at found
      exact found.1.symm
    · rename_i request command executed applied stored rejected
      rw [← Option.some.inj moved]
      obtain ⟨body, isFailed, tells⟩ := exists_fail request now (.other thrown)
      refine invariant.setRequest (fun other before found => ?_) ?_
      · rw [stored, Option.some_inj, RequestState.mk.injEq] at found
        exact found.1.symm
      · rw [isFailed]
        exact ⟨tells, fun client => absurd client (show ¬ (500 : Nat) < 500 by decide)⟩
    · cases moved
  | query call thrown now =>
    simp only [apiStep] at moved
    split at moved
    · rename_i request query stored
      rw [← Option.some.inj moved]
      obtain ⟨bounded, absent⟩ := invariant.phases call request _ stored
      refine invariant.setRequest (fun other before found => ?_)
        (replySound_list absent request bounded thrown now)
      rw [stored, Option.some_inj, RequestState.mk.injEq] at found
      exact found.1.symm
    · cases moved
  | search call answer now =>
    simp only [apiStep] at moved
    split at moved
    · rename_i request query stored
      rw [← Option.some.inj moved]
      obtain ⟨_, searches, absent⟩ := invariant.phases call request _ stored
      refine invariant.setRequest (fun other before found => ?_)
        (replySound_search absent searches query answer now)
      rw [stored, Option.some_inj, RequestState.mk.injEq] at found
      exact found.1.symm
    · cases moved

omit [DecidableEq Instance] in
theorem ApiInvariant.initial :
    ApiInvariant saving api (.initial : ApiState Call Instance Number) where
  store := .initial
  submitted _ _ stored := absurd stored (Option.some_ne_none _).symm
  phases _ _ _ stored := absurd stored (Option.some_ne_none _).symm

omit [DecidableEq Instance] in
/-- A pair was committed by the call that is recorded under its name. -/
theorem PairInvariant.of_committed {store : MessageStore Call Instance Number}
    (invariant : PairInvariant saving store) {pair : CommittedPair Call Instance Number}
    (member : pair ∈ store.committed) :
    ∃ execution inserts, store.calls pair.call = some execution ∧
      pair = execution.pair saving pair.call inserts := by
  have own : pair ∈ store.committed.filter fun other => other.call = pair.call :=
    List.mem_filter.mpr ⟨member, decide_eq_true rfl⟩
  rw [invariant.calls pair.call] at own
  cases stored : store.calls pair.call with
  | none =>
    rw [stored] at own
    exact absurd own List.not_mem_nil
  | some execution =>
    rw [stored, pairsOf, Option.mem_toList] at own
    obtain ⟨inserts, _, isPair⟩ := Option.map_eq_some_iff.mp own
    exact ⟨execution, inserts, rfl, isPair.symm⟩

/-- The message and the event of a pair are those of a validated request: content and metadata as
they are saved, which is as they were validated for a command that is saved as it is. -/
structure WrittenFor (saving : Saving Number) (request : ApiRequest Number)
    (dto : CreateMessageDto Number) (pair : CommittedPair Call Instance Number) : Prop where
  conversationId : pair.message.conversationId = dto.conversationId
  senderId : pair.message.senderId = dto.senderId
  content : pair.message.content = toWellFormed dto.content
  metadata : pair.message.metadata = dto.metadata.bind (savedValue saving)
  asIs : (dto.command request.http.resolveCorrelationId).isSavedAsIs saving = true →
    pair.message.content = dto.content ∧ pair.message.metadata = dto.metadata
  event : ∃ eventId, pair.row.payload =
    { eventId
      eventType := MESSAGE_CREATED_EVENT_TYPE
      eventVersion := MESSAGE_CREATED_EVENT_VERSION
      occurredAt := pair.message.timestamp.toISOString
      correlationId := toWellFormed request.http.resolveCorrelationId
      payload :=
        toMessageCreatedEventPayload (mapMessageDocument pair.messageId pair.message) }

/-- What is written was posted with a configured key and a valid body, a reply of 201 is about what
its request committed, and one of 400 or 401 is to a request that committed nothing. Errors tell
what they may, and no query asks for more than the API allows. -/
structure AnswersSafely (saving : Saving Number) (api : Api)
    (state : ApiState Call Instance Number) : Prop where
  written : ∀ pair ∈ state.store.committed, ∃ request phase body dto,
    state.requests pair.call = some ⟨request, phase⟩ ∧ request.bodyError = none ∧
      api.admits request = true ∧ request.route = .create body ∧
      api.validators.validateBody body = some dto ∧ WrittenFor saving request dto pair
  created : ∀ call request response,
    state.requests call = some ⟨request, .replied (.created response)⟩ →
      ∃ (execution : Execution Number) (inserts : Inserts),
        state.store.committed.filter (fun pair => pair.call = call) =
          [execution.pair saving call inserts] ∧
        response = mapMessageResponse (execution.message inserts.messageId)
  refused : ∀ call request status body,
    state.requests call = some ⟨request, .replied (.failed status body)⟩ → status < 500 →
      state.store.committed.filter (fun pair => pair.call = call) = []
  errors : ∀ call request status body,
    state.requests call = some ⟨request, .replied (.failed status body)⟩ →
      TellsError request status body
  listed : ∀ call request response,
    state.requests call = some ⟨request, .replied (.listed response)⟩ →
      response.data.length ≤ 100
  searching : ∀ call request query,
    state.requests call = some ⟨request, .searching query⟩ →
      0 ≤ (searchRequest query).fromHit ∧
        (searchRequest query).fromHit + (searchRequest query).size ≤ 5000

omit [DecidableEq Call] [DecidableEq Instance] in
/-- The pair of a call whose command the controller made of a validated body. -/
theorem writtenFor_pair {request : ApiRequest Number} {body : PostedBody Number}
    {dto : CreateMessageDto Number} (valid : api.validators.validateBody body = some dto)
    {execution : Execution Number}
    (command : execution.command = dto.command request.http.resolveCorrelationId) {call : Call}
    {inserts : Inserts} :
    WrittenFor saving request dto
      (execution.pair saving call inserts : CommittedPair Call Instance Number) := by
  obtain ⟨conversationId, senderId⟩ := isWellFormed_of_validateBody valid
  have asIs : execution.command.isSavedAsIs saving = true →
      execution.message inserts.messageId = mapMessageDocument inserts.messageId
        ((execution.command.document execution.now).saved saving) :=
    mapMessageDocument_saved.mpr
  obtain ⟨_, now, phase⟩ := execution
  subst command
  exact {
    conversationId := toWellFormed_eq_self_iff.mpr conversationId
    senderId := toWellFormed_eq_self_iff.mpr senderId
    content := rfl
    metadata := rfl
    asIs := fun savedAsIs =>
      ⟨(congrArg Message.content (asIs savedAsIs)).symm,
        (congrArg Message.metadata (asIs savedAsIs)).symm⟩
    event := ⟨inserts.eventId, rfl⟩ }

omit [DecidableEq Instance] in
theorem ApiInvariant.answersSafely (invariant : ApiInvariant saving api state) :
    AnswersSafely saving api state where
  written pair member := by
    obtain ⟨execution, inserts, stored, isPair⟩ := invariant.store.of_committed member
    obtain ⟨request, phase, isFound, ⟨parsed, admits⟩, body, dto, isCreate, valid, command⟩ :=
      invariant.submitted pair.call execution stored
    exact ⟨request, phase, body, dto, isFound, parsed, admits, isCreate, valid,
      isPair ▸ writtenFor_pair valid command⟩
  created call request response stored := by
    obtain ⟨execution, inserts, returned, called, resolved, rfl⟩ :=
      invariant.phases call request _ stored
    refine ⟨execution, inserts, invariant.store.resolved called resolved, ?_⟩
    rw [invariant.store.returned call execution called inserts returned resolved]
  refused call request status body stored client := by
    have absent := (invariant.phases call request _ stored).2 client
    rw [invariant.store.calls call, absent]
    rfl
  errors call request status body stored := (invariant.phases call request _ stored).1
  listed call request response stored := invariant.phases call request _ stored
  searching call request query stored := by
    obtain ⟨⟨first, last, least, most⟩, _⟩ := invariant.phases call request _ stored
    have few : query.page * query.limit ≤ 100 * 50 := Nat.mul_le_mul last most
    have page : ((query.page : ℤ) - 1) * query.limit + query.limit = query.page * query.limit := by
      ring
    refine ⟨mul_nonneg (by omega) (by omega), ?_⟩
    show ((query.page : ℤ) - 1) * query.limit + query.limit ≤ 5000
    rw [page]
    exact_mod_cast few

end Runs

/-! ### Two requests at once -/

def exampleApi : Api where
  config := .singleAttempt
  guard := { apiKeys := secretEntries }
  sha256 _ := secretDigest
  validators := { number := fun _ => .nan, maxLength := maxScalars, leavesOut := fun _ => false }
  runtime := isoRuntime

/-- A POST with this key. -/
def examplePost (apiKey : Option JsString) : ApiRequest Nat where
  http :=
    { header := fun name => if name = jsString "x-api-key" then apiKey else none
      url := jsString "/api/messages"
      requestUuid := jsString "request-1"
      correlationUuid := jsString "request-2" }
  bodyError := none
  route := .create { properties := exampleBody none, others := [] }

/-- The status that a request was replied to with. -/
def ApiState.statusOf (call : Call) (state : ApiState Call Instance Number) : Option Nat :=
  (state.requests call).bind fun request =>
    match request.phase with
    | .replied reply => some reply.status
    | _ => none

end MessageManagement
