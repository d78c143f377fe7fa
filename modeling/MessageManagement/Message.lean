/-
This file models the messages of the domain, the events that announce them, and
the text of a MongoDB `_id`.

An `_id` leaves the persistence layer as the 24 hexadecimal digits of its twelve
bytes, and comes back from a cursor as such; the two directions undo each other,
so messages with different `_id`s have different ids.
-/

import MessageManagement.Library.Json
import MessageManagement.OutboxRepository

namespace MessageManagement

/-! ### The text of an `_id` -/

/-- The last `width` hexadecimal digits of a number, in lower case. -/
def hexDigits : Nat → Nat → JsString
  | 0, _ => []
  | width + 1, value => hexDigits width (value / 16) ++ [Json.hexUnit (value % 16)]

/-- The number that hexadecimal digits of either case denote. -/
def hexNumber (text : JsString) : Nat :=
  text.foldl (fun value unit => value * 16 + (Json.hexValue unit).getD 0) 0

/-- `id.toString()`. -/
def ObjectId.toString (id : ObjectId) : JsString := hexDigits 24 id.val

/-- `new Types.ObjectId(text)`, for 24 hexadecimal digits. -/
def ObjectId.ofHexString (text : JsString) : ObjectId := Fin.ofNat (2 ^ 96) (hexNumber text)

theorem length_hexDigits (width value : Nat) : (hexDigits width value).length = width := by
  induction width generalizing value with
  | zero => rfl
  | succ width inductionHypothesis =>
    rw [hexDigits, List.length_append, inductionHypothesis, List.length_singleton]

theorem hexNumber_hexDigits {width value : Nat} (small : value < 16 ^ width) :
    hexNumber (hexDigits width value) = value := by
  induction width generalizing value with
  | zero =>
    rw [pow_zero, Nat.lt_one_iff] at small
    rw [small]
    rfl
  | succ width inductionHypothesis =>
    have shorter : value / 16 < 16 ^ width := by
      rw [pow_succ] at small
      exact Nat.div_lt_of_lt_mul (by rw [mul_comm]; exact small)
    have front := inductionHypothesis shorter
    rw [hexNumber] at front ⊢
    rw [hexDigits, List.foldl_append, front, List.foldl_cons, List.foldl_nil,
      Json.hexValue_hexUnit (Nat.mod_lt value (by decide)), Option.getD_some]
    omega

theorem ofHexString_toString (id : ObjectId) : ObjectId.ofHexString id.toString = id := by
  have small : id.val < 16 ^ 24 := id.isLt
  rw [ObjectId.ofHexString, ObjectId.toString, hexNumber_hexDigits small]
  exact Fin.ext (Nat.mod_eq_of_lt id.isLt)

theorem toString_injective : Function.Injective ObjectId.toString :=
  Function.LeftInverse.injective ofHexString_toString

/-! ### Messages and their events -/

/-- A message of the domain. `metadata` is `none` where the property is absent; `null` is a value
like any other. -/
structure Message (Number : Type) where
  id : JsString
  conversationId : JsString
  senderId : JsString
  content : JsString
  timestamp : JsDate
  metadata : Option (Json Number)

structure MessageCreatedEventPayload (Number : Type) where
  id : JsString
  conversationId : JsString
  senderId : JsString
  content : JsString
  timestamp : JsString
  metadata : Option (Json Number)

structure MessageCreatedEvent (Number : Type) where
  eventId : JsString
  eventType : JsString
  eventVersion : Nat
  occurredAt : JsString
  correlationId : JsString
  payload : MessageCreatedEventPayload Number

def MESSAGE_CREATED_EVENT_TYPE : JsString := jsString "message.created"

def MESSAGE_CREATED_EVENT_VERSION : Nat := 1

def MESSAGE_CREATED_TOPIC : JsString := jsString "messages.message-created.v1"

variable {Number : Type}

def toMessageCreatedEventPayload (message : Message Number) :
    MessageCreatedEventPayload Number where
  id := message.id
  conversationId := message.conversationId
  senderId := message.senderId
  content := message.content
  timestamp := message.timestamp.toISOString
  metadata := message.metadata

/-- `buildMessageCreatedEvent`; `eventId` is what `randomUUID` returns. -/
def buildMessageCreatedEvent (eventId : JsString) (message : Message Number)
    (correlationId : JsString) (occurredAt : JsDate) : MessageCreatedEvent Number where
  eventId
  eventType := MESSAGE_CREATED_EVENT_TYPE
  eventVersion := MESSAGE_CREATED_EVENT_VERSION
  occurredAt := occurredAt.toISOString
  correlationId
  payload := toMessageCreatedEventPayload message

end MessageManagement
