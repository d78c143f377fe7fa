/-
This file follows a message from the body of its POST to the search response
that shows it again: validation, `execute`, the record of its event, the shape
check of the search indexer, the indexed document and the mapped hit.

The validator lets `null` pass as metadata, because `@IsOptional` skips the
other checks on it; the shape check of the search indexer takes it for malformed.
Everything else that is accepted comes back as the POST returned it.
-/

import MessageManagement.CreateMessage
import MessageManagement.SearchIndexer

namespace MessageManagement

variable {Number : Type} [JsNumber Number]

/-! ### Validating a body -/

/-- What `trim` removes: white space and line terminators. -/
def isTrimmed (unit : UInt16) : Bool :=
  (0x09 ≤ unit.toNat && unit.toNat ≤ 0x0D) || unit == 0x20 || unit == 0xA0 || unit == 0x1680 ||
    (0x2000 ≤ unit.toNat && unit.toNat ≤ 0x200A) || unit == 0x2028 || unit == 0x2029 ||
    unit == 0x202F || unit == 0x205F || unit == 0x3000 || unit == 0xFEFF

def trim (text : JsString) : JsString :=
  ((text.dropWhile isTrimmed).reverse.dropWhile isTrimmed).reverse

/-- A character of `ID_PATTERN`. -/
def isIdUnit (unit : UInt16) : Bool :=
  (0x41 ≤ unit.toNat && unit.toNat ≤ 0x5A) || (0x61 ≤ unit.toNat && unit.toNat ≤ 0x7A) ||
    (0x30 ≤ unit.toNat && unit.toNat ≤ 0x39) || unit == 0x5F || unit == 0x3A || unit == 0x2E ||
    unit == 0x2D

/-- `ID_PATTERN.test(text)`. -/
def matchesIdPattern (text : JsString) : Bool := !text.isEmpty && text.all isIdUnit

def MAX_METADATA_BYTES : Nat := 10240

/-- The properties of a body as the transformation to `CreateMessageDto` hands them to its
`@Transform` decorators and validators; `none` is an absent property. -/
structure CreateMessageBody (Number : Type) where
  conversationId : Option (Json Number)
  senderId : Option (Json Number)
  content : Option (Json Number)
  metadata : Option (Json Number)

structure CreateMessageDto (Number : Type) where
  conversationId : JsString
  senderId : JsString
  content : JsString
  metadata : Option (Json Number)

/-- A required string: trimmed, not empty, of limited length, and accepted by a pattern.
`maxLength` is class-validator's comparison of a string's length. -/
def validateString (maxLength : JsString → Nat → Bool) (limit : Nat) (accepts : JsString → Bool) :
    Option (Json Number) → Option JsString
  | some (.string value) =>
    if (!(trim value).isEmpty && maxLength (trim value) limit && accepts (trim value)) then
      some (trim value)
    else none
  | _ => none

def validateId (maxLength : JsString → Nat → Bool) (value : Option (Json Number)) :
    Option JsString :=
  validateString maxLength 128 matchesIdPattern value

def validateContent (maxLength : JsString → Nat → Bool) (value : Option (Json Number)) :
    Option JsString :=
  validateString maxLength 5000 (fun _ => true) value

/-- `@IsOptional()` skips the other validators where the property is absent or `null`. -/
def validatesMetadata : Option (Json Number) → Bool
  | none => true
  | some .null => true
  | some (.object fields) =>
    decide ((utf8Encode (Json.object fields).stringify).length ≤ MAX_METADATA_BYTES)
  | some _ => false

/-- The validated DTO, or `none` where a validator objects. -/
def validateCreateMessage (maxLength : JsString → Nat → Bool) (body : CreateMessageBody Number) :
    Option (CreateMessageDto Number) :=
  (validateId maxLength body.conversationId).bind fun conversationId =>
    (validateId maxLength body.senderId).bind fun senderId =>
      (validateContent maxLength body.content).bind fun content =>
        if validatesMetadata body.metadata then
          some { conversationId, senderId, content, metadata := body.metadata }
        else none

/-- The command the controller makes of a DTO. -/
def CreateMessageDto.command (dto : CreateMessageDto Number) (correlationId : JsString) :
    CreateMessageCommand Number where
  conversationId := dto.conversationId
  senderId := dto.senderId
  content := dto.content
  correlationId
  metadata := dto.metadata

/-! ### Responses -/

structure MessageResponse (Number : Type) where
  id : JsString
  conversationId : JsString
  senderId : JsString
  content : JsString
  timestamp : JsString
  metadata : Option (Json Number)

def mapMessageResponse (message : Message Number) : MessageResponse Number where
  id := message.id
  conversationId := message.conversationId
  senderId := message.senderId
  content := message.content
  timestamp := message.timestamp.toISOString
  metadata := message.metadata

/-- A hit of an Elasticsearch response. -/
structure EsSearchHit (Number : Type) where
  score : Option Number
  source : Option (EsMessageDocument Number)

/-- A hit of the domain; its timestamp may be an Invalid Date. -/
structure SearchMessageHit (Number : Type) where
  id : JsString
  conversationId : JsString
  senderId : JsString
  content : JsString
  timestamp : Option JsDate
  score : Number
  metadata : Option (Json Number)

def mapHit (runtime : JsRuntime) (hit : EsSearchHit Number) : List (SearchMessageHit Number) :=
  match hit.source with
  | none => []
  | some source =>
    [{ id := source.id
       conversationId := source.conversationId
       senderId := source.senderId
       content := source.content
       timestamp := runtime.date source.timestamp
       score := hit.score.getD (JsNumber.ofNat 0)
       metadata := source.metadata }]

structure SearchPagination where
  page : Nat
  limit : Nat
  total : Nat
  totalPages : Nat

structure SearchMessagesResult (Number : Type) where
  data : List (SearchMessageHit Number)
  pagination : SearchPagination

structure SearchMessageResponse (Number : Type) where
  message : MessageResponse Number
  score : Number

structure SearchMessagesResponse (Number : Type) where
  data : List (SearchMessageResponse Number)
  pagination : SearchPagination

/-- One hit of `mapSearchMessagesResponse`; `none` is the `RangeError` of an Invalid Date. -/
def mapSearchMessageResponse (hit : SearchMessageHit Number) :
    Option (SearchMessageResponse Number) :=
  hit.timestamp.map fun timestamp =>
    { message := mapMessageResponse
        { id := hit.id
          conversationId := hit.conversationId
          senderId := hit.senderId
          content := hit.content
          timestamp
          metadata := hit.metadata }
      score := hit.score }

def mapSearchMessagesResponse (result : SearchMessagesResult Number) :
    Option (SearchMessagesResponse Number) :=
  (result.data.mapM mapSearchMessageResponse).map fun data =>
    { data, pagination := result.pagination }

/-! ### One format -/

/-- What the two ends must agree on for a call of `execute`: the record of its event is accepted
as that event, and the document indexed for it, found with any score on any page, is mapped to
the response of the POST. -/
def ComesBackAsReturned [DecidableEq Number] (runtime : JsRuntime) (execution : Execution Number)
    (inserts : Inserts) : Prop :=
  let event := (execution.outboxInput inserts).payload
  parseMessageCreatedEvent runtime (some (publishJsonValue event)) = .ok (.messageCreated event) ∧
    ∃ document, projectMessageDocument (projectMessageCreatedEvent runtime event) = some document ∧
      ∀ score pagination,
        mapSearchMessagesResponse
            { data := mapHit runtime { score, source := some document }, pagination } =
          some
            { data := [{ message := mapMessageResponse (execution.message inserts.messageId)
                         score := score.getD (JsNumber.ofNat 0) }]
              pagination }

/-- Whatever `execute` returned, the document indexed for its event is mapped to it. -/
theorem indexed_as_returned (runtime : JsRuntime) (execution : Execution Number)
    (inserts : Inserts) :
    ∃ document,
      projectMessageDocument (projectMessageCreatedEvent runtime
        (execution.outboxInput inserts).payload) = some document ∧
      ∀ score pagination,
        mapSearchMessagesResponse
            { data := mapHit runtime { score, source := some document }, pagination } =
          some
            { data := [{ message := mapMessageResponse (execution.message inserts.messageId)
                         score := score.getD (JsNumber.ofNat 0) }]
              pagination } := by
  have dated : runtime.date (execution.outboxInput inserts).payload.payload.timestamp =
      some execution.now :=
    date_toISOString runtime execution.now
  refine ⟨⟨inserts.messageId.toString, execution.command.conversationId,
    execution.command.senderId, execution.command.content, execution.now.toISOString,
    execution.command.metadata⟩, ?_, ?_⟩
  · rw [projectMessageDocument, projectMessageCreatedEvent]
    dsimp only
    rw [dated]
    rfl
  · intro score pagination
    rw [mapSearchMessagesResponse, mapHit]
    dsimp only
    rw [date_toISOString]
    rfl

theorem isCurrentEvent_outboxInput (runtime : JsRuntime) {execution : Execution Number}
    (plain : ∀ metadata, execution.command.metadata = some metadata → metadata.Plain)
    (inserts : Inserts) : IsCurrentEvent runtime (execution.outboxInput inserts).payload where
  eventType := rfl
  eventVersion := rfl
  dated := by
    rw [show runtime.date (execution.outboxInput inserts).payload.payload.timestamp =
      some execution.now from date_toISOString runtime execution.now]
    rfl
  plain := plain

omit [JsNumber Number] in
/-- The metadata a body may carry past the validators is a record, absent or `null`. -/
theorem isAbsentOrRecord_iff [JsNumber Number] {metadata : Option (Json Number)}
    (valid : validatesMetadata metadata = true) :
    isAbsentOrRecord metadata = true ↔ metadata ≠ some .null := by
  cases metadata with
  | none => exact ⟨fun _ => nofun, fun _ => rfl⟩
  | some value =>
    cases value with
    | null =>
      exact ⟨fun accepted => absurd accepted Bool.false_ne_true, fun present => absurd rfl present⟩
    | object fields => exact ⟨fun _ => nofun, fun _ => rfl⟩
    | _ => exact absurd valid Bool.false_ne_true

/-- A validated DTO keeps the metadata of its body, which passed its validators. -/
theorem validateCreateMessage_metadata {maxLength : JsString → Nat → Bool}
    {body : CreateMessageBody Number} {dto : CreateMessageDto Number}
    (valid : validateCreateMessage maxLength body = some dto) :
    dto.metadata = body.metadata ∧ validatesMetadata body.metadata = true := by
  rw [validateCreateMessage] at valid
  obtain ⟨conversationId, _, valid⟩ := Option.bind_eq_some_iff.mp valid
  obtain ⟨senderId, _, valid⟩ := Option.bind_eq_some_iff.mp valid
  obtain ⟨content, _, valid⟩ := Option.bind_eq_some_iff.mp valid
  by_cases passes : validatesMetadata body.metadata = true
  · rw [if_pos passes] at valid
    rw [← Option.some.inj valid]
    exact ⟨rfl, passes⟩
  · rw [if_neg passes] at valid
    exact nomatch valid

/-- For every body the validators accept and every way `execute` can run on it, the two ends
agree on the format exactly if the metadata is not `null`. -/
theorem comes_back_as_returned_iff [LawfulJsNumber Number] [DecidableEq Number]
    (runtime : JsRuntime) (maxLength : JsString → Nat → Bool) {body : CreateMessageBody Number}
    {dto : CreateMessageDto Number} (valid : validateCreateMessage maxLength body = some dto)
    (plain : ∀ metadata, body.metadata = some metadata → metadata.Plain)
    (correlationId : JsString) (now : JsDate) (phase : ExecutePhase Number) (inserts : Inserts) :
    ComesBackAsReturned runtime ⟨dto.command correlationId, now, phase⟩ inserts ↔
      body.metadata ≠ some .null := by
  obtain ⟨kept, passes⟩ := validateCreateMessage_metadata valid
  have current : IsCurrentEvent runtime
      ((⟨dto.command correlationId, now, phase⟩ : Execution Number).outboxInput inserts).payload :=
    isCurrentEvent_outboxInput runtime (fun metadata same => plain metadata (kept ▸ same)) inserts
  have parsed := parse_publishJsonValue current
  rw [show ((⟨dto.command correlationId, now, phase⟩ : Execution Number).outboxInput
    inserts).payload.payload.metadata = body.metadata from kept] at parsed
  rw [← isAbsentOrRecord_iff passes]
  unfold ComesBackAsReturned
  dsimp only
  constructor
  · intro agrees
    by_contra refused
    rw [if_neg refused, agrees.1] at parsed
    exact nomatch parsed
  · intro accepted
    rw [if_pos accepted] at parsed
    exact ⟨parsed, indexed_as_returned runtime _ inserts⟩

/-! ### Two bodies -/

/-- The number of Unicode characters is within a limit. -/
def maxScalars (text : JsString) (limit : Nat) : Bool := decide ((scalars text).length ≤ limit)

/-- A body with this metadata. -/
def exampleBody (metadata : Option (Json Nat)) : CreateMessageBody Nat where
  conversationId := some (.string (jsString " conversation-1"))
  senderId := some (.string (jsString "sender-1"))
  content := some (.string (jsString "hello"))
  metadata

def exampleInserts : Inserts := ⟨1, 2, jsString "event-1"⟩

theorem sms_metadata_comes_back :
    ∃ dto, validateCreateMessage maxScalars
        (exampleBody (some (.object [(jsString "channel", .string (jsString "sms"))]))) = some dto ∧
      ComesBackAsReturned isoRuntime ⟨dto.command (jsString "request-1"), exampleDate, .callback⟩
        exampleInserts := by
  have valid : validateCreateMessage maxScalars
      (exampleBody (some (.object [(jsString "channel", .string (jsString "sms"))]))) =
        some ⟨jsString "conversation-1", jsString "sender-1", jsString "hello",
          some (.object [(jsString "channel", .string (jsString "sms"))])⟩ := by
    rfl
  refine ⟨_, valid, (comes_back_as_returned_iff isoRuntime maxScalars valid ?_ _ _ _ _).mpr nofun⟩
  intro metadata same
  rw [← Option.some.inj same, Json.Plain]
  exact ⟨List.nodup_singleton _, trivial, trivial⟩

/-- A body whose metadata is `null` is accepted, and its event is malformed to the search
indexer. -/
theorem null_metadata_malformed :
    ∃ dto, validateCreateMessage maxScalars (exampleBody (some .null)) = some dto ∧
      ¬ ComesBackAsReturned isoRuntime
        ⟨dto.command (jsString "request-1"), exampleDate, .callback⟩ exampleInserts := by
  refine ⟨⟨jsString "conversation-1", jsString "sender-1", jsString "hello", some .null⟩, rfl, ?_⟩
  intro agrees
  have plain : ∀ metadata : Json Nat, some .null = some metadata → metadata.Plain := by
    intro metadata same
    rw [← Option.some.inj same]
    trivial
  have current : IsCurrentEvent isoRuntime ((⟨⟨jsString "conversation-1", jsString "sender-1",
      jsString "hello", jsString "request-1", some .null⟩, exampleDate, .callback⟩ :
        Execution Nat).outboxInput exampleInserts).payload :=
    isCurrentEvent_outboxInput isoRuntime plain exampleInserts
  have refused := (parse_publishJsonValue current).trans (if_neg Bool.false_ne_true)
  exact nomatch agrees.1.symm.trans refused

end MessageManagement
