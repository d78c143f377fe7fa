/-
This file models the outbox collection and the operations that write it: the
inserts and lock-owner-safe updates of the Mongo outbox repository, the update
of the outbox redrive command, and the expiry of published rows.

Each operation is one atomic document-store operation of the source, with its
filter and its `$set` and `$unset` fields, except `claimPublishable`, which is
the source's loop of such operations. An `_id` is kept as the ObjectId it
denotes; the repository passes it between its callers as a hex string.
-/

import MessageManagement.Library.Collection
import MessageManagement.Library.Text

namespace MessageManagement

/-! ### Outbox rows -/

/-- A MongoDB `_id`: twelve bytes, compared as one big-endian number. -/
abbrev ObjectId := Fin (2 ^ 96)

instance ObjectId.lawfulBEq : LawfulBEq ObjectId := inferInstance

instance ObjectId.neZero : NeZero (2 ^ 96) := inferInstance

inductive OutboxEventStatus
  | pending
  | publishing
  | published
  | failed
deriving DecidableEq, Repr

/-- A document of `outbox_events`, apart from its `_id`. `Instance` is the type of publisher
instance ids, `Payload` that of event envelopes; times are milliseconds since the epoch. -/
structure OutboxEventEntity (Instance Payload : Type) where
  eventId : JsString
  eventType : JsString
  eventVersion : Nat
  topic : JsString
  key : JsString
  payload : Payload
  status : OutboxEventStatus
  attempts : Int
  nextAttemptAt : Int
  lockedBy : Option Instance
  lockedAt : Option Int
  lastError : Option JsString
  createdAt : Int
  publishedAt : Option Int
deriving DecidableEq

/-- The domain's view of a row, as the repository hands it out. -/
structure OutboxEvent (Instance Payload : Type) extends OutboxEventEntity Instance Payload where
  id : ObjectId
deriving DecidableEq

variable {Instance Payload : Type}

/-- `mapOutboxEvent`: a row with its `_id`, field by field. -/
def mapOutboxEvent (id : ObjectId) (event : OutboxEventEntity Instance Payload) :
    OutboxEvent Instance Payload :=
  { event with id }

abbrev OutboxCollection (Instance Payload : Type) :=
  Collection ObjectId (OutboxEventEntity Instance Payload)

/-! ### Creating a row -/

/-- The input of `create`, apart from `status: 'pending'` and `attempts: 0`, the only values
its type admits. -/
structure CreateOutboxEventInput (Payload : Type) where
  eventId : JsString
  eventType : JsString
  eventVersion : Nat
  topic : JsString
  key : JsString
  payload : Payload
  nextAttemptAt : Int
  createdAt : Int

/-- The document `create` inserts. -/
def CreateOutboxEventInput.entity (input : CreateOutboxEventInput Payload) :
    OutboxEventEntity Instance Payload where
  eventId := input.eventId
  eventType := input.eventType
  eventVersion := input.eventVersion
  topic := input.topic
  key := input.key
  payload := input.payload
  status := .pending
  attempts := 0
  nextAttemptAt := input.nextAttemptAt
  lockedBy := none
  lockedAt := none
  lastError := none
  createdAt := input.createdAt
  publishedAt := none

/-! ### Claiming rows -/

structure ClaimPublishableOutboxEventsInput (Instance : Type) where
  batchSize : Nat
  lockedBy : Instance
  lockTimeoutMs : Int
  now : Int

/-- The filter of one claim: due pending rows, and publishing rows whose lease expired. A
comparison with a field that is not set does not match, and one with an Invalid Date is refused
before it is made: here both dates are valid. -/
def claimFilter (input : ClaimPublishableOutboxEventsInput Instance)
    (event : OutboxEventEntity Instance Payload) : Bool :=
  (event.nextAttemptAt ≤ input.now && event.status == .pending) ||
    (event.lockedAt.any (· ≤ input.now - input.lockTimeoutMs) && event.status == .publishing)

/-- The update of one claim. -/
def claimUpdate (input : ClaimPublishableOutboxEventsInput Instance)
    (event : OutboxEventEntity Instance Payload) : OutboxEventEntity Instance Payload :=
  { event with lockedAt := some input.now, lockedBy := some input.lockedBy, status := .publishing }

/-- One `findOneAndUpdate` of `claimPublishable`: the claimable row with the least `_id`. -/
def claimOne (input : ClaimPublishableOutboxEventsInput Instance)
    (outbox : OutboxCollection Instance Payload) :
    Option (OutboxEvent Instance Payload × OutboxCollection Instance Payload) :=
  (outbox.findOneAndUpdate (claimFilter input) (claimUpdate input)).map fun claimed =>
    (mapOutboxEvent claimed.1.1 claimed.1.2, claimed.2)

/-- The loop of `claimPublishable`, with this many iterations left. -/
def claimLoop (input : ClaimPublishableOutboxEventsInput Instance) :
    Nat → OutboxCollection Instance Payload →
      List (OutboxEvent Instance Payload) × OutboxCollection Instance Payload
  | 0, outbox => ([], outbox)
  | remaining + 1, outbox =>
    match claimOne input outbox with
    | none => ([], outbox)
    | some (event, next) =>
      let (claimed, final) := claimLoop input remaining next
      (event :: claimed, final)

/-- `claimPublishable`, when no other writer acts during the call and its filter is not refused. -/
def claimPublishable (input : ClaimPublishableOutboxEventsInput Instance)
    (outbox : OutboxCollection Instance Payload) :
    List (OutboxEvent Instance Payload) × OutboxCollection Instance Payload :=
  claimLoop input input.batchSize outbox

/-! ### Leaving a claim -/

section LockOwner

variable [DecidableEq Instance]

/-- `lockOwnerFilter`, apart from the `_id`. -/
def lockOwnerFilter (lockedBy : Instance) (event : OutboxEventEntity Instance Payload) : Bool :=
  event.lockedBy == some lockedBy && event.status == .publishing

structure MarkPublishedOutboxEventInput (Instance : Type) where
  id : ObjectId
  lockedBy : Instance
  publishedAt : Int

def publishedUpdate (publishedAt : Int) (event : OutboxEventEntity Instance Payload) :
    OutboxEventEntity Instance Payload :=
  { event with
    publishedAt := some publishedAt
    status := .published
    lastError := none
    lockedAt := none
    lockedBy := none }

/-- `markPublished`: whether a row matched, and the collection afterwards. -/
def markPublished (input : MarkPublishedOutboxEventInput Instance)
    (outbox : OutboxCollection Instance Payload) : Bool × OutboxCollection Instance Payload :=
  outbox.updateOne input.id (lockOwnerFilter input.lockedBy) (publishedUpdate input.publishedAt)

structure ScheduleOutboxRetryInput (Instance : Type) where
  id : ObjectId
  lockedBy : Instance
  attempts : Int
  nextAttemptAt : Int
  lastError : JsString

def retryUpdate (input : ScheduleOutboxRetryInput Instance)
    (event : OutboxEventEntity Instance Payload) : OutboxEventEntity Instance Payload :=
  { event with
    attempts := input.attempts
    lastError := some input.lastError
    nextAttemptAt := input.nextAttemptAt
    status := .pending
    lockedAt := none
    lockedBy := none }

def scheduleRetry (input : ScheduleOutboxRetryInput Instance)
    (outbox : OutboxCollection Instance Payload) : Bool × OutboxCollection Instance Payload :=
  outbox.updateOne input.id (lockOwnerFilter input.lockedBy) (retryUpdate input)

structure MarkFailedOutboxEventInput (Instance : Type) where
  id : ObjectId
  lockedBy : Instance
  attempts : Int
  failedAt : Int
  lastError : JsString

def failedUpdate (input : MarkFailedOutboxEventInput Instance)
    (event : OutboxEventEntity Instance Payload) : OutboxEventEntity Instance Payload :=
  { event with
    attempts := input.attempts
    lastError := some input.lastError
    nextAttemptAt := input.failedAt
    status := .failed
    lockedAt := none
    lockedBy := none }

def markFailed (input : MarkFailedOutboxEventInput Instance)
    (outbox : OutboxCollection Instance Payload) : Bool × OutboxCollection Instance Payload :=
  outbox.updateOne input.id (lockOwnerFilter input.lockedBy) (failedUpdate input)

end LockOwner

/-! ### Redriving failed rows -/

def redriveUpdate (now : Int) (event : OutboxEventEntity Instance Payload) :
    OutboxEventEntity Instance Payload :=
  { event with
    attempts := 0
    nextAttemptAt := now
    status := .pending
    lastError := none
    lockedAt := none
    lockedBy := none
    publishedAt := none }

/-- The `updateMany` of `redriveFailed`, for the rows its query selected. -/
def redriveSelected (selected : List ObjectId) (now : Int)
    (outbox : OutboxCollection Instance Payload) : OutboxCollection Instance Payload :=
  outbox.updateMany (fun id event => decide (id ∈ selected) && event.status == .failed)
    (redriveUpdate now)

/-! ### Expiry -/

/-- The `expireAfterSeconds` of the TTL index on `publishedAt`, in milliseconds. -/
def EXPIRE_AFTER_MS : Int := 7 * 24 * 60 * 60 * 1000

/-- What the TTL index deletes: published rows, a while after their `publishedAt`. -/
def expiryFilter (now : Int) (event : OutboxEventEntity Instance Payload) : Bool :=
  event.status == .published && event.publishedAt.any (· + EXPIRE_AFTER_MS ≤ now)

/-! ### What the operations match -/

theorem claimFilter_iff (input : ClaimPublishableOutboxEventsInput Instance)
    (event : OutboxEventEntity Instance Payload) :
    claimFilter input event = true ↔
      (event.status = .pending ∧ event.nextAttemptAt ≤ input.now) ∨
        (event.status = .publishing ∧
          ∃ lockedAt, event.lockedAt = some lockedAt ∧
            lockedAt ≤ input.now - input.lockTimeoutMs) := by
  simp only [claimFilter, Bool.or_eq_true, Bool.and_eq_true, decide_eq_true_eq, beq_iff_eq,
    Option.any_eq_true]
  constructor
  · rintro (⟨due, pending⟩ | ⟨⟨lockedAt, locked, expired⟩, publishing⟩)
    · exact Or.inl ⟨pending, due⟩
    · exact Or.inr ⟨publishing, lockedAt, locked, expired⟩
  · rintro (⟨pending, due⟩ | ⟨publishing, lockedAt, locked, expired⟩)
    · exact Or.inl ⟨due, pending⟩
    · exact Or.inr ⟨⟨lockedAt, locked, expired⟩, publishing⟩

theorem lockOwnerFilter_iff [DecidableEq Instance] (lockedBy : Instance)
    (event : OutboxEventEntity Instance Payload) :
    lockOwnerFilter lockedBy event = true ↔
      event.lockedBy = some lockedBy ∧ event.status = .publishing := by
  rw [lockOwnerFilter, Bool.and_eq_true, beq_iff_eq, beq_iff_eq]

theorem expiryFilter_published {now : Int} {event : OutboxEventEntity Instance Payload}
    (expired : expiryFilter now event = true) : event.status = .published := by
  rw [expiryFilter, Bool.and_eq_true, beq_iff_eq] at expired
  exact expired.1

/-- A claim that claimed something: the row it took, and the collection it left. -/
theorem claimOne_eq_some {input : ClaimPublishableOutboxEventsInput Instance}
    {outbox next : OutboxCollection Instance Payload} {event : OutboxEvent Instance Payload}
    (claimed : claimOne input outbox = some (event, next)) :
    ∃ before, outbox.find event.id = some before ∧ claimFilter input before = true ∧
      event = mapOutboxEvent event.id (claimUpdate input before) ∧
      (∀ other ∈ outbox.select fun _ row => claimFilter input row, event.id ≤ other) ∧
      next = (outbox.updateOne event.id (claimFilter input) (claimUpdate input)).2 := by
  obtain ⟨⟨⟨id, updated⟩, collection⟩, found, same⟩ := Option.map_eq_some_iff.mp claimed
  simp only [Prod.mk.injEq] at same
  obtain ⟨rfl, rfl⟩ := same
  obtain ⟨before, stored, accepted, rfl, lower, left⟩ :=
    Collection.findOneAndUpdate_eq_some found
  exact ⟨before, stored, accepted, rfl, lower, left⟩

theorem claimOne_eq_none {input : ClaimPublishableOutboxEventsInput Instance}
    {outbox : OutboxCollection Instance Payload} :
    claimOne input outbox = none ↔
      ∀ id event, outbox.find id = some event → claimFilter input event = false := by
  rw [claimOne, Option.map_eq_none_iff, Collection.findOneAndUpdate_eq_none]

end MessageManagement
