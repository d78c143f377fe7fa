/-
This file puts the pipeline together: committed `execute` transactions, any
number of outbox publishers, the two topics, any number of search indexers and
any number of runs of the redrive of the dead-letter topic, one request of one of
them a step.

The publishers are those of the publisher system, and the handlers of the search
indexers those of the delivery system; new here are the records they exchange
and the redrive. Where a record goes, which record is delivered to whom and what
a request answers is chosen by the label of the step.
-/

import MessageManagement.Convergence
import MessageManagement.Library.PartitionedLog
import MessageManagement.Publisher

namespace MessageManagement

variable {Instance Consumer Session Number : Type}

/-! ### Records and topics -/

/-- A Kafka record, apart from its headers. -/
structure KafkaRecord where
  key : Option Bytes
  value : Option Bytes
deriving DecidableEq

def MESSAGE_CREATED_DLQ_TOPIC : JsString := jsString "messages.message-created.v1.dlq"

/-- The two topics. The group of the first is the one of the search indexers, the group of the
second the one of the redrive. -/
structure MessageTopics where
  main : Topic KafkaRecord
  dlq : Topic KafkaRecord

/-- The record was appended. -/
def SendOutcome.appends : SendOutcome → Bool
  | .acknowledged => true
  | .rejected appended _ => appended

/-- `producer.send` of one record; the partitioner chose the partition. -/
def MessageTopics.send (topic : JsString) (partition : Nat) (record : KafkaRecord)
    (outcome : SendOutcome) (topics : MessageTopics) : MessageTopics :=
  if outcome.appends then
    if topic = MESSAGE_CREATED_TOPIC then
      { topics with main := topics.main.append partition record }
    else if topic = MESSAGE_CREATED_DLQ_TOPIC then
      { topics with dlq := topics.dlq.append partition record }
    else topics
  else topics

/-- The record that `publishJson` sends for a claimed event. -/
def publishedRecord [JsNumber Number] (event : OutboxEvent Instance (MessageCreatedEvent Number)) :
    KafkaRecord where
  key := some (utf8Encode event.key)
  value := some (publishJsonValue event.payload)

/-- The record that `publishToDlq` sends: `decodeKey` makes a string of the key. -/
def dlqRecord (record : KafkaRecord) : KafkaRecord where
  key := record.key.map fun key => utf8Encode (utf8Decode key)
  value := record.value

/-! ### The redrive of the dead-letter topic -/

structure DlqRedriveInput where
  dryRun : Bool
  limit : Nat

inductive RedriveStopReason
  | idleTimeout
  | limitReached

/-- Where a run of `redrive` is: waiting for a record, in `handlePayload` before the send of
`republishDlqMessage` or before `commitOffsets`, or done. -/
inductive RedrivePhase
  | polling
  | republishing (partition offset : Nat) (record : KafkaRecord)
  | committing (partition offset : Nat)
  | returned (stopReason : RedriveStopReason)
  | rejected

/-- The run is at work on no record. -/
def RedrivePhase.isIdle : RedrivePhase → Bool
  | .republishing _ _ _ => false
  | .committing _ _ => false
  | _ => true

/-- A run of `redrive`. `position` is the offset its consumer reads next on a partition it was
assigned. -/
structure RedriveSession where
  input : DlqRedriveInput
  position : Nat → Option Nat
  phase : RedrivePhase
  consumedCount : Nat
  republishedCount : Nat
  committedCount : Nat

def RedriveSession.start (input : DlqRedriveInput) : RedriveSession where
  input
  position _ := none
  phase := .polling
  consumedCount := 0
  republishedCount := 0
  committedCount := 0

/-- `handlePayload` resolved for the record at an offset. -/
def RedriveSession.handled (partition offset : Nat) (session : RedriveSession) : RedriveSession :=
  { session with
    position := Function.update session.position partition (some (offset + 1))
    phase :=
      if session.input.limit ≤ session.consumedCount then .returned .limitReached else .polling }

/-- How `commitOffsets` ended. -/
inductive CommitOutcome
  | acknowledged
  | rejected (applied : Bool)

/-- `assign` gives the run's consumer a partition: it reads on from the offset its group has
committed. `consume` delivers the next record of a partition, `republish` and `commitOffsets` are
the requests of `handlePayload`, after whose failure the record is delivered again, `idle` is the
idle timeout, which takes effect once the record at work is done with, and `fail` an error or a
crash. -/
inductive RedriveAction
  | start (input : DlqRedriveInput)
  | assign (partition : Nat)
  | consume (partition : Nat)
  | republish (partition : Nat) (outcome : SendOutcome)
  | commitOffsets (outcome : CommitOutcome)
  | idle
  | fail

def redriveStep (topics : MessageTopics) :
    RedriveAction → Option RedriveSession → Option (RedriveSession × MessageTopics)
  | .start input, none => some (.start input, topics)
  | .assign partition, some session =>
    some ({ session with
      position := Function.update session.position partition (some (topics.dlq.passed partition)) },
      topics)
  | .consume partition, some session =>
    match session.phase, session.position partition with
    | .polling, some offset =>
      (topics.dlq.read partition offset).map fun record =>
        let consumed := { session with consumedCount := session.consumedCount + 1 }
        if session.input.dryRun then (consumed.handled partition offset, topics)
        else ({ consumed with phase := .republishing partition offset record }, topics)
    | _, _ => none
  | .republish mainPartition outcome, some session =>
    match session.phase with
    | .republishing partition offset record =>
      let sent := topics.send MESSAGE_CREATED_TOPIC mainPartition record outcome
      if outcome.isAcknowledged then
        some ({ session with
          phase := .committing partition offset
          republishedCount := session.republishedCount + 1 },
          { sent with dlq := sent.dlq.settle partition offset })
      else some ({ session with phase := .polling }, sent)
    | _ => none
  | .commitOffsets outcome, some session =>
    match session.phase with
    | .committing partition offset =>
      let passed := { topics with dlq := topics.dlq.pass partition (offset + 1) }
      match outcome with
      | .acknowledged =>
        some (RedriveSession.handled partition offset
          { session with committedCount := session.committedCount + 1 }, passed)
      | .rejected applied =>
        some ({ session with phase := .polling }, if applied then passed else topics)
    | _ => none
  | .idle, some session =>
    match session.phase with
    | .polling => some ({ session with phase := .returned .idleTimeout }, topics)
    | _ => none
  | .fail, some session => some ({ session with phase := .rejected }, topics)
  | _, _ => none

/-! ### The state of the pipeline -/

/-- A command whose metadata is what a JSON body can hold. -/
structure JsonCommand (Number : Type) [JsNumber Number] extends CreateMessageCommand Number where
  plain : ∀ value, metadata = some value → value.Plain

/-- A record that a search indexer handles. -/
structure Handling (Number : Type) where
  partition : Nat
  offset : Nat
  record : KafkaRecord
  phase : HandlerPhase Number

/-- `handled` says on which records of the main topic a `handleMessage` resolved; `committed` are
the pairs of documents committed so far, which no step reads. -/
structure PipelineState (Instance Consumer Session Number : Type) where
  messages : Collection ObjectId (MessageEntity Number)
  committed : List (CommittedPair Unit Instance Number)
  publishers : PublisherState Instance (MessageCreatedEvent Number)
  topics : MessageTopics
  handling : Consumer → Option (Handling Number)
  handled : Nat → Nat → Bool
  index : SearchIndex Number
  sessions : Session → Option RedriveSession

def PipelineState.initial : PipelineState Instance Consumer Session Number where
  messages := .empty
  committed := []
  publishers := .initial
  topics := { main := .empty, dlq := .empty }
  handling _ := none
  handled _ _ := false
  index _ := none
  sessions _ := none

/-- `commit` is a committed transaction of `execute`, `publisher` a step of the publisher system
with the partition a send goes to. `deliver` hands a record to `handleMessage`, the next two are
its requests, `finish` is its end and `crash` an end before it; `commitOffset` moves the offset of
the search indexers. `redrive` is a step of a redrive. -/
inductive PipelineAction (Instance Consumer Session Number : Type) [JsNumber Number]
  | commit (command : JsonCommand Number) (now : JsDate) (inserts : Inserts)
  | publisher (label : PublisherLabel Instance (MessageCreatedEvent Number)) (partition : Nat)
  | deliver (consumer : Consumer) (partition offset : Nat)
  | indexMessage (consumer : Consumer) (result : IndexResult)
  | publishToDlq (consumer : Consumer) (outcome : SendOutcome) (partition : Nat)
  | finish (consumer : Consumer)
  | crash (consumer : Consumer)
  | commitOffset (partition offset : Nat)
  | redrive (session : Session) (action : RedriveAction)

/-! ### The steps -/

section Steps

variable [DecidableEq Instance] [DecidableEq Consumer] [DecidableEq Session]

/-- The two collections of the database, with no call under way. -/
def PipelineState.store (state : PipelineState Instance Consumer Session Number) :
    MessageStore Unit Instance Number where
  messages := state.messages
  outbox := state.publishers.outbox
  calls _ := none
  committed := state.committed

/-- What a step of a publisher sends. -/
def PipelineState.sendOf [JsNumber Number]
    (state : PipelineState Instance Consumer Session Number)
    (label : PublisherLabel Instance (MessageCreatedEvent Number)) (partition : Nat) :
    MessageTopics :=
  match label.action with
  | .send publisher outcome =>
    match state.publishers.phase publisher with
    | .publishing (current :: _) =>
      state.topics.send current.event.topic partition (publishedRecord current.event) outcome
    | _ => state.topics
  | _ => state.topics

def HandlerPhase.isResolved : HandlerPhase Number → Bool
  | .resolved => true
  | _ => false

/-- A handler goes on with a record, which is settled once it is resolved. -/
def PipelineState.handle (consumer : Consumer) (handling : Handling Number)
    (state : PipelineState Instance Consumer Session Number) :
    PipelineState Instance Consumer Session Number :=
  { state with
    handling := Function.update state.handling consumer (some handling)
    topics :=
      if handling.phase.isResolved then
        { state.topics with
          main := state.topics.main.settle handling.partition handling.offset }
      else state.topics }

def PipelineState.release (consumer : Consumer)
    (state : PipelineState Instance Consumer Session Number) :
    PipelineState Instance Consumer Session Number :=
  { state with handling := Function.update state.handling consumer none }

variable [JsNumber Number] [DecidableEq Number]

def pipelineStep (saving : Saving Number) (config : PublisherConfig) (runtime : JsRuntime)
    (state : PipelineState Instance Consumer Session Number) :
    PipelineAction Instance Consumer Session Number →
      Option (PipelineState Instance Consumer Session Number)
  | .commit command now inserts =>
    (state.store.commit saving () ⟨command.toCreateMessageCommand, now, .callback⟩ inserts).map
      fun store =>
        { state with
          messages := store.messages
          committed := store.committed
          publishers := { state.publishers with outbox := store.outbox } }
  | .publisher label partition =>
    match label.action with
    | .create _ _ => none
    | _ =>
      (publisherStep config state.publishers label).map fun publishers =>
        { state with publishers, topics := state.sendOf label partition }
  | .deliver consumer partition offset =>
    match state.handling consumer, state.topics.main.read partition offset with
    | none, some record =>
      some (state.handle consumer ⟨partition, offset, record, startHandling runtime record.value⟩)
    | _, _ => none
  | .indexMessage consumer result =>
    match state.handling consumer with
    | some ⟨partition, offset, record, .indexing document attempt⟩ =>
      let indexing := indexMessage document result state.index
      some (PipelineState.handle consumer
        ⟨partition, offset, record, afterIndexMessage document attempt indexing.2⟩
        { state with index := indexing.1 })
    | _ => none
  | .publishToDlq consumer outcome dlqPartition =>
    match state.handling consumer with
    | some ⟨partition, offset, record, .publishingToDlq⟩ =>
      some (PipelineState.handle consumer
        ⟨partition, offset, record, afterPublishToDlq outcome.isAcknowledged⟩
        { state with
          topics := state.topics.send MESSAGE_CREATED_DLQ_TOPIC dlqPartition (dlqRecord record)
            outcome })
    | _ => none
  | .finish consumer =>
    match state.handling consumer with
    | some ⟨partition, offset, _, .resolved⟩ =>
      some { state.release consumer with
        handled := fun other position =>
          state.handled other position || decide (other = partition ∧ position = offset) }
    | some ⟨_, _, _, .rejected⟩ => some (state.release consumer)
    | _ => none
  | .crash consumer => some (state.release consumer)
  | .commitOffset partition offset =>
    if (List.range offset).all (state.handled partition) then
      some { state with
        topics := { state.topics with main := state.topics.main.pass partition offset } }
    else none
  | .redrive session action =>
    (redriveStep state.topics action (state.sessions session)).map fun result =>
      { state with
        sessions := Function.update state.sessions session (some result.1)
        topics := result.2 }

/-! ### What a step does -/

/-- What a step does, by its action: the state that it needs and what it leaves. -/
inductive PipelineTransition (saving : Saving Number) (config : PublisherConfig)
    (runtime : JsRuntime) (state : PipelineState Instance Consumer Session Number) :
    PipelineAction Instance Consumer Session Number →
      PipelineState Instance Consumer Session Number → Prop
  | committed {command : JsonCommand Number} {now inserts store}
      (wrote : state.store.commit saving ()
        ⟨command.toCreateMessageCommand, now, .callback⟩ inserts = some store) :
      PipelineTransition saving config runtime state (.commit command now inserts)
        { state with
          messages := store.messages
          committed := store.committed
          publishers := { state.publishers with outbox := store.outbox } }
  | published {label publishers} (partition)
      (created : ∀ id input, label.action ≠ .create id input)
      (stepped : publisherStep config state.publishers label = some publishers) :
      PipelineTransition saving config runtime state (.publisher label partition)
        { state with publishers, topics := state.sendOf label partition }
  | delivered {consumer partition offset record} (free : state.handling consumer = none)
      (found : state.topics.main.read partition offset = some record) :
      PipelineTransition saving config runtime state (.deliver consumer partition offset)
        (state.handle consumer
          ⟨partition, offset, record, startHandling runtime record.value⟩)
  | indexed {consumer partition offset record document attempt} (result)
      (was : state.handling consumer =
        some ⟨partition, offset, record, .indexing document attempt⟩) :
      PipelineTransition saving config runtime state (.indexMessage consumer result)
        (PipelineState.handle consumer
          ⟨partition, offset, record,
            afterIndexMessage document attempt (indexMessage document result state.index).2⟩
          { state with index := (indexMessage document result state.index).1 })
  | deadLettered {consumer partition offset record} (outcome : SendOutcome) (dlqPartition)
      (was : state.handling consumer = some ⟨partition, offset, record, .publishingToDlq⟩) :
      PipelineTransition saving config runtime state
        (.publishToDlq consumer outcome dlqPartition)
        (PipelineState.handle consumer
          ⟨partition, offset, record, afterPublishToDlq outcome.isAcknowledged⟩
          { state with
            topics := state.topics.send MESSAGE_CREATED_DLQ_TOPIC dlqPartition
              (dlqRecord record) outcome })
  | resolved {consumer partition offset record}
      (was : state.handling consumer = some ⟨partition, offset, record, .resolved⟩) :
      PipelineTransition saving config runtime state (.finish consumer)
        { state.release consumer with
          handled := fun other position =>
            state.handled other position || decide (other = partition ∧ position = offset) }
  | rejected {consumer partition offset record}
      (was : state.handling consumer = some ⟨partition, offset, record, .rejected⟩) :
      PipelineTransition saving config runtime state (.finish consumer) (state.release consumer)
  | crashed (consumer) :
      PipelineTransition saving config runtime state (.crash consumer) (state.release consumer)
  | passed {partition offset} (all : (List.range offset).all (state.handled partition) = true) :
      PipelineTransition saving config runtime state (.commitOffset partition offset)
        { state with
          topics := { state.topics with main := state.topics.main.pass partition offset } }
  | redriven {session action result}
      (stepped : redriveStep state.topics action (state.sessions session) = some result) :
      PipelineTransition saving config runtime state (.redrive session action)
        { state with
          sessions := Function.update state.sessions session (some result.1)
          topics := result.2 }

theorem pipelineStep_transition {saving : Saving Number} {config : PublisherConfig}
    {runtime : JsRuntime} {state next : PipelineState Instance Consumer Session Number}
    {action : PipelineAction Instance Consumer Session Number}
    (moved : pipelineStep saving config runtime state action = some next) :
    PipelineTransition saving config runtime state action next := by
  cases action with
  | commit command now inserts =>
    obtain ⟨store, wrote, rfl⟩ := Option.map_eq_some_iff.mp moved
    exact .committed wrote
  | publisher label partition =>
    simp only [pipelineStep] at moved
    split at moved
    · cases moved
    · rename_i created
      obtain ⟨publishers, stepped, rfl⟩ := Option.map_eq_some_iff.mp moved
      exact .published partition created stepped
  | deliver consumer partition offset =>
    simp only [pipelineStep] at moved
    split at moved
    · rename_i free found
      exact Option.some.inj moved ▸ .delivered free found
    · cases moved
  | indexMessage consumer result =>
    simp only [pipelineStep] at moved
    split at moved
    · rename_i was
      exact Option.some.inj moved ▸ .indexed result was
    · cases moved
  | publishToDlq consumer outcome dlqPartition =>
    simp only [pipelineStep] at moved
    split at moved
    · rename_i was
      exact Option.some.inj moved ▸ .deadLettered outcome dlqPartition was
    · cases moved
  | finish consumer =>
    simp only [pipelineStep] at moved
    split at moved
    · rename_i was
      exact Option.some.inj moved ▸ .resolved was
    · rename_i was
      exact Option.some.inj moved ▸ .rejected was
    · cases moved
  | crash consumer => exact Option.some.inj moved ▸ .crashed consumer
  | commitOffset partition offset =>
    simp only [pipelineStep] at moved
    split at moved
    · rename_i all
      exact Option.some.inj moved ▸ .passed all
    · cases moved
  | redrive session action =>
    obtain ⟨result, stepped, rfl⟩ := Option.map_eq_some_iff.mp moved
    exact .redriven stepped

end Steps

end MessageManagement
