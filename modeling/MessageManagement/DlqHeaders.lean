/-
This file models the headers of a record in the dead-letter topic: what
`buildDlqHeaders` writes for a record that could not be indexed, how the producer
encodes them, and what a consumer decodes.

The headers of the record itself are passed on first, and the six that describe
the failure are defined over them, so nothing that a producer of the main topic
wrote can stand in their place. A header is text made of bytes made of text: what
is read is the text written, with every lone surrogate replaced.
-/

import MessageManagement.Library.Properties
import MessageManagement.SearchIndexer

namespace MessageManagement

variable {Number : Type}

/-! ### Headers on the wire -/

/-- A header value that is no array. -/
inductive HeaderItem
  | buffer (bytes : Bytes)
  | text (text : JsString)

/-- A header value; KafkaJS makes an array of the values of a name that occurs twice. -/
inductive HeaderValue
  | item (item : HeaderItem)
  | array (items : List HeaderItem)

/-- `none` is a property whose value is `undefined`. -/
abbrev IHeaders := Properties JsString (Option HeaderValue)

def decodeHeaderItem : HeaderItem → JsString
  | .buffer bytes => utf8Decode bytes
  | .text text => text

def decodeHeaderValue : Option HeaderValue → Option JsString
  | none => none
  | some (.array []) => none
  | some (.array (first :: _)) => some (decodeHeaderItem first)
  | some (.item item) => some (decodeHeaderItem item)

/-- `decodeHeaders`. The names are those of an object, so `Object.fromEntries` finds each once. -/
def decodeHeaders : Option IHeaders → Properties JsString JsString
  | none => .empty
  | some headers => headers.filterMap decodeHeaderValue

/-- `encodeHeaders` of the producer. -/
def encodeHeaders (headers : Option (Properties JsString JsString)) : Option IHeaders :=
  headers.map fun headers =>
    headers.filterMap fun value => some (some (.item (.buffer (utf8Encode value))))

/-- What the `catch` of `handleMessage` receives. -/
inductive CaughtError
  | error (name message : JsString)
  | other (text : JsString)

/-- What `buildDlqHeaders` reads of the record and where it lies. -/
structure EachMessagePayload where
  topic : JsString
  partition : Nat
  offset : Nat
  headers : Option IHeaders

def errorClass : CaughtError → JsString
  | .error name _ => name
  | .other _ => jsString "Error"

def errorMessage : CaughtError → JsString
  | .error _ message => message
  | .other text => text

/-- The properties that `buildDlqHeaders` names itself, after those it spreads. -/
def failureHeaders (payload : EachMessagePayload) (error : CaughtError) (failedAt : JsDate) :
    Properties JsString JsString :=
  (Properties.empty.define (jsString "x-error-class") (errorClass error))
    |>.define (jsString "x-error-message") (errorMessage error)
    |>.define (jsString "x-failed-at") failedAt.toISOString
    |>.define (jsString "x-original-offset") (decimal payload.offset)
    |>.define (jsString "x-original-partition") (decimal payload.partition)
    |>.define (jsString "x-original-topic") payload.topic

/-- `buildDlqHeaders`; `failedAt` is the clock it reads. -/
def buildDlqHeaders (payload : EachMessagePayload) (error : CaughtError)
    (parsed : Option (ParsedEvent Number)) (failedAt : JsDate) : Properties JsString JsString :=
  let headers := (decodeHeaders payload.headers).assign (failureHeaders payload error failedAt)
  match parsed with
  | some (.messageCreated event) =>
    headers.define (jsString "x-correlation-id") event.correlationId
  | _ => headers

end MessageManagement
