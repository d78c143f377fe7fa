/-
This file models how the search indexer handles a Kafka record: the shape check
of `parseMessageCreatedEvent`, the projections that carry an accepted event to
the document of the search index, and the attempts to index it.

The producing side is here too, as far as the value of a record goes: an event
is published as its JSON text in UTF-8. What an event of this format parses to
is said once, by `parse_publishJsonValue`.
-/

import MessageManagement.Library.Overwrite
import MessageManagement.Message

namespace MessageManagement

/-- What the JavaScript runtime decides for itself: the dates of texts that are not ISO texts,
and the message of a `SyntaxError`. -/
structure JsRuntime where
  parseDate : JsString → Option JsDate
  syntaxErrorMessage : JsString → JsString

/-- `new Date(text)`; `none` is an Invalid Date. -/
def JsRuntime.date (runtime : JsRuntime) (text : JsString) : Option JsDate :=
  JsDate.parse runtime.parseDate text

/-- A runtime that knows ISO dates only. -/
def isoRuntime : JsRuntime where
  parseDate _ := none
  syntaxErrorMessage _ := jsString "Unexpected token"

theorem date_toISOString (runtime : JsRuntime) (date : JsDate) :
    runtime.date date.toISOString = some date :=
  JsDate.parse_toISOString runtime.parseDate date

variable {Number : Type} [JsNumber Number]

/-! ### Publishing an event -/

def MessageCreatedEventPayload.fields (payload : MessageCreatedEventPayload Number) :
    List (JsString × Json Number) :=
  [(jsString "id", .string payload.id),
    (jsString "conversationId", .string payload.conversationId),
    (jsString "senderId", .string payload.senderId),
    (jsString "content", .string payload.content),
    (jsString "timestamp", .string payload.timestamp)] ++
    payload.metadata.toList.map fun metadata => (jsString "metadata", metadata)

def MessageCreatedEvent.fields (event : MessageCreatedEvent Number) :
    List (JsString × Json Number) :=
  [(jsString "eventId", .string event.eventId),
    (jsString "eventType", .string event.eventType),
    (jsString "eventVersion", .number (JsNumber.ofNat event.eventVersion)),
    (jsString "occurredAt", .string event.occurredAt),
    (jsString "correlationId", .string event.correlationId),
    (jsString "payload", .object event.payload.fields)]

/-- The value of the record that `publishJson` sends for an event. -/
def publishJsonValue (event : MessageCreatedEvent Number) : Bytes :=
  utf8Encode (Json.object event.fields).stringify

/-! ### Parsing a record -/

structure MalformedMessageError where
  message : JsString

/-- `unknownVersion` carries the type and version the record names. -/
inductive ParsedEvent (Number : Type)
  | messageCreated (event : MessageCreatedEvent Number)
  | unknownVersion (eventType : JsString) (eventVersion : Number)

/-- A property whose `typeof` is `'string'`. -/
def stringField (key : String) (fields : List (JsString × Json Number)) : Option JsString :=
  match Json.lookup (jsString key) fields with
  | some (.string text) => some text
  | _ => none

/-- A property whose `typeof` is `'number'`. -/
def numberField (key : String) (fields : List (JsString × Json Number)) : Option Number :=
  match Json.lookup (jsString key) fields with
  | some (.number value) => some value
  | _ => none

/-- A property that is a record: an object, not `null` and not an array. -/
def recordField (key : String) (fields : List (JsString × Json Number)) :
    Option (List (JsString × Json Number)) :=
  match Json.lookup (jsString key) fields with
  | some (.object record) => some record
  | _ => none

/-- The checks of `assertMessageCreatedEvent` on the payload. -/
def assertEventPayload (runtime : JsRuntime) (fields : List (JsString × Json Number)) :
    Except MalformedMessageError (MessageCreatedEventPayload Number) :=
  match stringField "id" fields, stringField "conversationId" fields,
    stringField "senderId" fields, stringField "content" fields,
    stringField "timestamp" fields with
  | some id, some conversationId, some senderId, some content, some timestamp =>
    if (runtime.date timestamp).isNone then .error ⟨jsString "Event payload is invalid"⟩
    else
      match Json.lookup (jsString "metadata") fields with
      | none => .ok { id, conversationId, senderId, content, timestamp, metadata := none }
      | some (.object metadata) =>
        .ok { id, conversationId, senderId, content, timestamp,
              metadata := some (.object metadata) }
      | some _ => .error ⟨jsString "Event payload metadata must be an object"⟩
  | _, _, _, _, _ => .error ⟨jsString "Event payload is invalid"⟩

/-- `assertMessageCreatedEvent`: the envelope read as an event. Its type and version were
compared before. -/
def assertMessageCreatedEvent (runtime : JsRuntime) (fields : List (JsString × Json Number)) :
    Except MalformedMessageError (MessageCreatedEvent Number) :=
  match stringField "eventId" fields, stringField "occurredAt" fields,
    stringField "correlationId" fields, recordField "payload" fields with
  | some eventId, some occurredAt, some correlationId, some payload =>
    (assertEventPayload runtime payload).map fun payload =>
      { eventId
        eventType := MESSAGE_CREATED_EVENT_TYPE
        eventVersion := MESSAGE_CREATED_EVENT_VERSION
        occurredAt
        correlationId
        payload }
  | _, _, _, _ => .error ⟨jsString "Event envelope is missing required fields"⟩

/-- `parseMessageCreatedEvent`, of the value of a record. -/
@[irreducible]
def parseMessageCreatedEvent [DecidableEq Number] (runtime : JsRuntime) :
    Option Bytes → Except MalformedMessageError (ParsedEvent Number)
  | none => .error ⟨jsString "Kafka message value is empty"⟩
  | some value =>
    match Json.parse (utf8Decode value) with
    | none => .error ⟨runtime.syntaxErrorMessage (utf8Decode value)⟩
    | some (.object fields) =>
      match stringField "eventType" fields, numberField "eventVersion" fields with
      | some eventType, some eventVersion =>
        if eventType ≠ MESSAGE_CREATED_EVENT_TYPE ∨
            eventVersion ≠ JsNumber.ofNat MESSAGE_CREATED_EVENT_VERSION then
          .ok (.unknownVersion eventType eventVersion)
        else (assertMessageCreatedEvent runtime fields).map .messageCreated
      | _, _ => .error ⟨jsString "Event envelope type/version are invalid"⟩
    | some _ => .error ⟨jsString "Event envelope must be an object"⟩

/-! ### From an event to the document of the index -/

/-- The domain's document; its timestamp may be an Invalid Date. -/
structure SearchMessageDocument (Number : Type) where
  id : JsString
  conversationId : JsString
  senderId : JsString
  content : JsString
  timestamp : Option JsDate
  metadata : Option (Json Number)

def projectMessageCreatedEvent (runtime : JsRuntime) (event : MessageCreatedEvent Number) :
    SearchMessageDocument Number where
  id := event.payload.id
  conversationId := event.payload.conversationId
  senderId := event.payload.senderId
  content := event.payload.content
  timestamp := runtime.date event.payload.timestamp
  metadata := event.payload.metadata

/-- A document of the search index. -/
structure EsMessageDocument (Number : Type) where
  id : JsString
  conversationId : JsString
  senderId : JsString
  content : JsString
  timestamp : JsString
  metadata : Option (Json Number)

/-- `projectMessageDocument`; `none` is the `RangeError` of an Invalid Date. -/
def projectMessageDocument (document : SearchMessageDocument Number) :
    Option (EsMessageDocument Number) :=
  document.timestamp.map fun timestamp =>
    { id := document.id
      conversationId := document.conversationId
      senderId := document.senderId
      content := document.content
      timestamp := timestamp.toISOString
      metadata := document.metadata }

/-! ### Indexing a document -/

/-- The documents of the search index, under their `_id`s. -/
abbrev SearchIndex (Number : Type) := JsString → Option (EsMessageDocument Number)

/-- What `isRetryableElasticsearchError` reads of a thrown value: whether it is a record, its
`name` if that is a string, and its `meta.statusCode` if that is a number other than NaN. -/
structure IndexError where
  isRecord : Bool
  name : Option JsString
  statusCode : Option ℚ

def isRetryableElasticsearchError (error : IndexError) : Bool :=
  error.isRecord &&
    (error.name == some (jsString "ConnectionError") ||
      error.name == some (jsString "TimeoutError") ||
      error.statusCode.any fun code => code == 408 || code == 429 || decide (500 ≤ code))

/-- The `RangeError` of an Invalid Date. -/
def invalidDateError : IndexError where
  isRecord := true
  name := some (jsString "RangeError")
  statusCode := none

/-- How the `index` request of `indexMessage` ended. A failed request may have been applied. -/
inductive IndexResult
  | succeeded
  | failed (applied : Bool) (error : IndexError)

/-- `indexMessage`: the index afterwards, and what it threw. An `index` request replaces the whole
document under the `_id`. -/
def indexMessage (document : SearchMessageDocument Number) (result : IndexResult)
    (index : SearchIndex Number) : SearchIndex Number × Option IndexError :=
  match projectMessageDocument document with
  | none => (index, some invalidDateError)
  | some body =>
    match result with
    | .succeeded => (Overwrite.write (document.id, body) index, none)
    | .failed applied error =>
      (if applied then Overwrite.write (document.id, body) index else index, some error)

def MAX_INDEX_ATTEMPTS : Nat := 5

/-- Where `handleMessage` is: in `indexWithRetry` before an attempt, in `publishToDlq`, or done. -/
inductive HandlerPhase (Number : Type)
  | indexing (document : SearchMessageDocument Number) (attempt : Nat)
  | publishingToDlq
  | resolved
  | rejected

/-- `handleMessage` up to its first request. -/
def startHandling [DecidableEq Number] (runtime : JsRuntime) (value : Option Bytes) :
    HandlerPhase Number :=
  match parseMessageCreatedEvent runtime value with
  | .error _ => .publishingToDlq
  | .ok (.unknownVersion _ _) => .resolved
  | .ok (.messageCreated event) => .indexing (projectMessageCreatedEvent runtime event) 1

/-- `handleMessage` after an attempt to index. -/
def afterIndexMessage (document : SearchMessageDocument Number) (attempt : Nat) :
    Option IndexError → HandlerPhase Number
  | none => .resolved
  | some error =>
    if !isRetryableElasticsearchError error || attempt == MAX_INDEX_ATTEMPTS then .publishingToDlq
    else .indexing document (attempt + 1)

/-- `handleMessage` after the send of `publishToDlq`. -/
def afterPublishToDlq (acknowledged : Bool) : HandlerPhase Number :=
  if acknowledged then .resolved else .rejected

/-! ### What a published event parses to -/

/-- The metadata an event may carry: none, or a record. -/
def isAbsentOrRecord : Option (Json Number) → Bool
  | none => true
  | some (.object _) => true
  | some _ => false

omit [JsNumber Number] in
/-- An event with a date for its timestamp has a document to send. -/
theorem isSome_projectMessageDocument {runtime : JsRuntime} {event : MessageCreatedEvent Number}
    (dated : (runtime.date event.payload.timestamp).isSome = true) :
    (projectMessageDocument (projectMessageCreatedEvent runtime event)).isSome = true := by
  rw [projectMessageDocument, Option.isSome_map]
  exact dated

omit [JsNumber Number] in
theorem lookup_cons_of_ne {key other : JsString} {value : Json Number}
    {fields : List (JsString × Json Number)} (different : other ≠ key) :
    Json.lookup key ((other, value) :: fields) = Json.lookup key fields :=
  if_neg different

omit [JsNumber Number] in
theorem lookup_cons_self {key : JsString} {value : Json Number}
    {fields : List (JsString × Json Number)} :
    Json.lookup key ((key, value) :: fields) = some value :=
  if_pos rfl

omit [JsNumber Number] in
theorem lookup_metadata (payload : MessageCreatedEventPayload Number) :
    Json.lookup (jsString "metadata") payload.fields = payload.metadata := by
  rw [MessageCreatedEventPayload.fields]
  simp only [List.cons_append, List.nil_append]
  rw [lookup_cons_of_ne (by decide), lookup_cons_of_ne (by decide), lookup_cons_of_ne (by decide),
    lookup_cons_of_ne (by decide), lookup_cons_of_ne (by decide)]
  cases payload.metadata with
  | none => rfl
  | some metadata => exact lookup_cons_self

omit [JsNumber Number] in
/-- The payload of a published event is read back, unless its metadata is no record. -/
theorem assertEventPayload_fields (runtime : JsRuntime)
    {payload : MessageCreatedEventPayload Number}
    (dated : (runtime.date payload.timestamp).isSome = true) :
    assertEventPayload runtime payload.fields =
      if isAbsentOrRecord payload.metadata then .ok payload
      else .error ⟨jsString "Event payload metadata must be an object"⟩ := by
  have valid : ¬ (runtime.date payload.timestamp).isNone = true := by
    rw [Option.isNone_iff_eq_none, ← Option.not_isSome_iff_eq_none]
    exact not_not.mpr dated
  unfold assertEventPayload
  rw [show stringField "id" payload.fields = some payload.id from rfl,
    show stringField "conversationId" payload.fields = some payload.conversationId from rfl,
    show stringField "senderId" payload.fields = some payload.senderId from rfl,
    show stringField "content" payload.fields = some payload.content from rfl,
    show stringField "timestamp" payload.fields = some payload.timestamp from rfl,
    lookup_metadata]
  dsimp only
  rw [if_neg valid]
  obtain ⟨id, conversationId, senderId, content, timestamp, metadata⟩ := payload
  cases metadata with
  | none => rfl
  | some value =>
    cases value with
    | object record => rfl
    | _ => rfl

/-- An event of the format: its type and version are the current ones, its timestamp is a date,
and its metadata is a JSON value. -/
structure IsCurrentEvent (runtime : JsRuntime) (event : MessageCreatedEvent Number) : Prop where
  eventType : event.eventType = MESSAGE_CREATED_EVENT_TYPE
  eventVersion : event.eventVersion = MESSAGE_CREATED_EVENT_VERSION
  dated : (runtime.date event.payload.timestamp).isSome = true
  plain : ∀ metadata, event.payload.metadata = some metadata → metadata.Plain

theorem assertMessageCreatedEvent_fields {runtime : JsRuntime} {event : MessageCreatedEvent Number}
    (current : IsCurrentEvent runtime event) :
    assertMessageCreatedEvent runtime event.fields =
      if isAbsentOrRecord event.payload.metadata then .ok event
      else .error ⟨jsString "Event payload metadata must be an object"⟩ := by
  unfold assertMessageCreatedEvent
  rw [show stringField "eventId" event.fields = some event.eventId from rfl,
    show stringField "occurredAt" event.fields = some event.occurredAt from rfl,
    show stringField "correlationId" event.fields = some event.correlationId from rfl,
    show recordField "payload" event.fields = some event.payload.fields from rfl]
  dsimp only
  rw [assertEventPayload_fields runtime current.dated, ← current.eventType, ← current.eventVersion]
  by_cases accepted : isAbsentOrRecord event.payload.metadata = true
  · rw [if_pos accepted, if_pos accepted]
    rfl
  · rw [if_neg accepted, if_neg accepted]
    rfl

variable [LawfulJsNumber Number]

omit [LawfulJsNumber Number] in
theorem plain_payload {payload : MessageCreatedEventPayload Number}
    (plain : ∀ metadata, payload.metadata = some metadata → metadata.Plain) :
    (Json.object payload.fields).Plain := by
  rw [Json.Plain, MessageCreatedEventPayload.fields]
  cases stored : payload.metadata with
  | none =>
    refine ⟨?_, ⟨trivial, trivial, trivial, trivial, trivial, trivial⟩⟩
    show [jsString "id", jsString "conversationId", jsString "senderId", jsString "content",
      jsString "timestamp"].Nodup
    decide
  | some metadata =>
    refine ⟨?_, ⟨trivial, trivial, trivial, trivial, trivial, plain metadata stored, trivial⟩⟩
    show [jsString "id", jsString "conversationId", jsString "senderId", jsString "content",
      jsString "timestamp", jsString "metadata"].Nodup
    decide

theorem plain_event {event : MessageCreatedEvent Number}
    (plain : ∀ metadata, event.payload.metadata = some metadata → metadata.Plain) :
    (Json.object event.fields).Plain := by
  rw [Json.Plain, MessageCreatedEvent.fields]
  refine ⟨?_, ⟨trivial, trivial, LawfulJsNumber.isFinite_ofNat _, trivial, trivial,
    plain_payload plain, trivial⟩⟩
  show [jsString "eventId", jsString "eventType", jsString "eventVersion", jsString "occurredAt",
    jsString "correlationId", jsString "payload"].Nodup
  decide

/-- What the record of a published event parses to: the event, unless its metadata is no
record. -/
theorem parse_publishJsonValue [DecidableEq Number] {runtime : JsRuntime}
    {event : MessageCreatedEvent Number} (current : IsCurrentEvent runtime event) :
    parseMessageCreatedEvent runtime (some (publishJsonValue event)) =
      if isAbsentOrRecord event.payload.metadata then .ok (.messageCreated event)
      else .error ⟨jsString "Event payload metadata must be an object"⟩ := by
  have same : ¬ (event.eventType ≠ MESSAGE_CREATED_EVENT_TYPE ∨
      (JsNumber.ofNat event.eventVersion : Number) ≠
        JsNumber.ofNat MESSAGE_CREATED_EVENT_VERSION) := by
    rw [not_or, not_not, not_not, current.eventVersion]
    exact ⟨current.eventType, rfl⟩
  rw [parseMessageCreatedEvent, publishJsonValue,
    Json.parse_utf8_stringify (plain_event current.plain)]
  dsimp only
  rw [show stringField "eventType" event.fields = some event.eventType from rfl,
    show numberField "eventVersion" event.fields = some (JsNumber.ofNat event.eventVersion)
      from rfl]
  dsimp only
  rw [if_neg same, assertMessageCreatedEvent_fields current]
  by_cases accepted : isAbsentOrRecord event.payload.metadata = true
  · rw [if_pos accepted, if_pos accepted]
    rfl
  · rw [if_neg accepted, if_neg accepted]
    rfl

/-- What is parsed of the record of a published event is the event. -/
theorem eq_of_parse_publishJsonValue [DecidableEq Number] {runtime : JsRuntime}
    {event parsed : MessageCreatedEvent Number} (current : IsCurrentEvent runtime event)
    (accepted : parseMessageCreatedEvent runtime (some (publishJsonValue event)) =
      .ok (.messageCreated parsed)) : parsed = event := by
  rw [parse_publishJsonValue current] at accepted
  by_cases record : isAbsentOrRecord event.payload.metadata = true
  · rw [if_pos record, Except.ok.injEq, ParsedEvent.messageCreated.injEq] at accepted
    exact accepted.symm
  · rw [if_neg record] at accepted
    exact nomatch accepted

end MessageManagement
