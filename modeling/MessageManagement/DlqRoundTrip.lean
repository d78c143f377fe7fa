/-
This file follows a record of the main topic through the dead-letter topic and
back. Its value is passed on as it is, but its key is made a string on the way to
the dead-letter topic, and encoded again: what is not UTF-8 in it is lost.
-/

import MessageManagement.DlqRedrive

namespace MessageManagement

variable (Instance Consumer Session Number : Type) [JsNumber Number] [DecidableEq Instance]
  [DecidableEq Consumer] [DecidableEq Session] [DecidableEq Number]

/-- A record of the main topic with its partition. -/
structure PlacedRecord where
  partition : Nat
  record : KafkaRecord

/-- In some state of the pipeline, the send of `publishToDlq` for one record appends another to the
dead-letter topic. -/
structure SentToDlq (saving : Saving Number) (config : PublisherConfig)
    (runtime : JsRuntime) (original : PlacedRecord) (dead : KafkaRecord) : Prop where
  sent : ∃ (state next : PipelineState Instance Consumer Session Number) (consumer : Consumer)
      (offset : Nat) (outcome : SendOutcome) (dlqPartition : Nat),
    state.handling consumer =
        some ⟨original.partition, offset, original.record, .publishingToDlq⟩ ∧
      pipelineStep saving config runtime state (.publishToDlq consumer outcome dlqPartition) =
        some next ∧
      next.topics.dlq.read dlqPartition (state.topics.dlq.records dlqPartition).length = some dead

/-- In some state of the pipeline, the send of `republishDlqMessage` for one record appends another
to the main topic, where the partitioner of the producer puts it if it has a key. -/
structure Republished (saving : Saving Number) (config : PublisherConfig)
    (runtime : JsRuntime) (partitioner : Bytes → Nat) (dead : KafkaRecord)
    (returned : PlacedRecord) : Prop where
  sent : ∃ (state next : PipelineState Instance Consumer Session Number) (session : Session)
      (run : RedriveSession) (partition offset : Nat) (outcome : SendOutcome),
    state.sessions session = some run ∧ run.phase = .republishing partition offset dead ∧
      pipelineStep saving config runtime state
        (.redrive session (.republish returned.partition outcome)) = some next ∧
      next.topics.main.read returned.partition
        (state.topics.main.records returned.partition).length = some returned.record
  placed : ∀ key, returned.record.key = some key → returned.partition = partitioner key

/-- One way of a record to the dead-letter topic and back. -/
def RoundTrip (saving : Saving Number) (config : PublisherConfig) (runtime : JsRuntime)
    (partitioner : Bytes → Nat) (original returned : PlacedRecord) : Prop :=
  ∃ dead, SentToDlq Instance Consumer Session Number saving config runtime original dead ∧
    Republished Instance Consumer Session Number saving config runtime partitioner dead returned

/-- The record that comes back has the bytes of the original, and its partition if the original was
put there by the partitioner. -/
def IsPreserved (partitioner : Bytes → Nat) (original returned : PlacedRecord) : Prop :=
  returned.record = original.record ∧
    ∀ key, original.record.key = some key → original.partition = partitioner key →
      returned.partition = original.partition

variable {Instance Consumer Session Number} {saving : Saving Number}

/-! ### What the two sends append -/

/-- What an append put at the end of a partition. -/
theorem read_send {topic : Topic KafkaRecord} {partition : Nat} {sent found : KafkaRecord}
    {appends : Bool}
    (read : (if appends then topic.append partition sent else topic).read partition
      (topic.records partition).length = some found) : found = sent := by
  cases appends with
  | true =>
    rw [if_pos rfl, Topic.read_append_last, Option.some_inj] at read
    exact read.symm
  | false =>
    rw [if_neg Bool.false_ne_true, Topic.read, List.getElem?_eq_none (le_refl _)] at read
    cases read

theorem dlq_send_dlq (topics : MessageTopics) (partition : Nat) (record : KafkaRecord)
    (outcome : SendOutcome) :
    (topics.send MESSAGE_CREATED_DLQ_TOPIC partition record outcome).dlq =
      if outcome.appends then topics.dlq.append partition record else topics.dlq := by
  have other : MESSAGE_CREATED_DLQ_TOPIC ≠ MESSAGE_CREATED_TOPIC := by decide
  unfold MessageTopics.send
  rw [if_neg other, if_pos rfl]
  split
  · rfl
  · rfl

omit [JsNumber Number] [DecidableEq Instance] [DecidableEq Session] [DecidableEq Number] in
theorem dlq_handle (consumer : Consumer) (handling : Handling Number)
    (state : PipelineState Instance Consumer Session Number) :
    (state.handle consumer handling).topics.dlq = state.topics.dlq := by
  unfold PipelineState.handle
  dsimp only
  split
  · rfl
  · rfl

theorem main_republish {topics : MessageTopics} {run : RedriveSession} {partition offset : Nat}
    {record : KafkaRecord} (phase : run.phase = .republishing partition offset record)
    {mainPartition : Nat} {outcome : SendOutcome} {result : RedriveSession × MessageTopics}
    (moved : redriveStep topics (.republish mainPartition outcome) (some run) = some result) :
    result.2.main =
      if outcome.appends then topics.main.append mainPartition record else topics.main := by
  rw [← main_send_main]
  simp only [redriveStep, phase] at moved
  split at moved
  · rw [← Option.some.inj moved]
  · rw [← Option.some.inj moved]

theorem SentToDlq.eq {config : PublisherConfig} {runtime : JsRuntime} {original : PlacedRecord}
    {dead : KafkaRecord}
    (sent : SentToDlq Instance Consumer Session Number saving config runtime original dead) :
    dead = dlqRecord original.record := by
  obtain ⟨state, next, consumer, place, outcome, dlqPartition, handles, moved, read⟩ := sent.sent
  cases pipelineStep_transition moved with
  | deadLettered outcome dlqPartition was =>
    rw [handles, Option.some_inj, Handling.mk.injEq] at was
    obtain ⟨_, _, isRecord, _⟩ := was
    rw [dlq_handle, ← isRecord] at read
    have read : (state.topics.send MESSAGE_CREATED_DLQ_TOPIC dlqPartition
        (dlqRecord original.record) outcome).dlq.read dlqPartition
          (state.topics.dlq.records dlqPartition).length = some dead := read
    rw [dlq_send_dlq] at read
    exact read_send read

theorem Republished.eq {config : PublisherConfig} {runtime : JsRuntime}
    {partitioner : Bytes → Nat} {dead : KafkaRecord} {returned : PlacedRecord}
    (republished : Republished Instance Consumer Session Number saving config runtime partitioner
      dead returned) : returned.record = dead := by
  obtain ⟨state, next, session, run, partition, offset, outcome, stored, phase, moved, read⟩ :=
    republished.sent
  obtain ⟨result, stepped, rfl⟩ := Option.map_eq_some_iff.mp moved
  rw [stored] at stepped
  have read : result.2.main.read returned.partition
    (state.topics.main.records returned.partition).length = some returned.record := read
  rw [main_republish phase stepped] at read
  exact read_send read

/-! ### Any number of round trips -/

/-- What is encoded once stays as it is. -/
theorem dlqRecord_dlqRecord (record : KafkaRecord) :
    dlqRecord (dlqRecord record) = dlqRecord record := by
  have settled : ∀ key, utf8Encode (utf8Decode (utf8Encode (utf8Decode key))) =
      utf8Encode (utf8Decode key) :=
    fun key => utf8Encode_utf8Decode_iff.mpr (isUtf8_utf8Encode _)
  unfold dlqRecord
  rw [Option.map_map]
  congr 1
  cases record.key with
  | none => rfl
  | some key => exact congrArg some (settled key)

theorem RoundTrip.record {config : PublisherConfig} {runtime : JsRuntime}
    {partitioner : Bytes → Nat} {original returned : PlacedRecord}
    (trip : RoundTrip Instance Consumer Session Number saving config runtime partitioner original
      returned) : returned.record = dlqRecord original.record := by
  obtain ⟨dead, sent, republished⟩ := trip
  rw [republished.eq, sent.eq]

theorem roundTrips_record {config : PublisherConfig} {runtime : JsRuntime}
    {partitioner : Bytes → Nat} {original returned : PlacedRecord}
    (trips : Relation.TransGen
      (RoundTrip Instance Consumer Session Number saving config runtime partitioner) original
      returned) :
    returned.record = dlqRecord original.record ∧
      ∀ key, returned.record.key = some key → returned.partition = partitioner key := by
  induction trips with
  | single trip =>
    obtain ⟨dead, sent, republished⟩ := trip
    exact ⟨RoundTrip.record ⟨dead, sent, republished⟩, republished.placed⟩
  | tail earlier trip inductionHypothesis =>
    obtain ⟨dead, sent, republished⟩ := trip
    refine ⟨?_, republished.placed⟩
    rw [RoundTrip.record ⟨dead, sent, republished⟩, inductionHypothesis.1, dlqRecord_dlqRecord]

/-- The key that goes to the dead-letter topic has the bytes of the original exactly if they are
UTF-8. -/
theorem dlqRecord_eq_iff (record : KafkaRecord) :
    dlqRecord record = record ↔ ∀ key, record.key = some key → IsUtf8 key := by
  obtain ⟨stored, value⟩ := record
  unfold dlqRecord
  rw [KafkaRecord.mk.injEq]
  dsimp only
  constructor
  · rintro ⟨same, _⟩ key isKey
    rw [isKey, Option.map_some, Option.some_inj] at same
    exact utf8Encode_utf8Decode_iff.mp same
  · intro utf8
    refine ⟨?_, rfl⟩
    cases stored with
    | none => rfl
    | some key => exact congrArg some (utf8Encode_utf8Decode_iff.mpr (utf8 key rfl))

/-- After any number of round trips, the record is the original exactly if its key is null or
UTF-8. -/
theorem dlq_round_trips_iff {config : PublisherConfig} {runtime : JsRuntime}
    {partitioner : Bytes → Nat} {original returned : PlacedRecord}
    (trips : Relation.TransGen
      (RoundTrip Instance Consumer Session Number saving config runtime partitioner) original
      returned) :
    IsPreserved partitioner original returned ↔
      ∀ key, original.record.key = some key → IsUtf8 key := by
  obtain ⟨record, placed⟩ := roundTrips_record trips
  rw [IsPreserved, ← dlqRecord_eq_iff, record]
  constructor
  · exact And.left
  · intro same
    refine ⟨same, fun key isKey wasPlaced => ?_⟩
    rw [wasPlaced, placed key (record.trans same ▸ isKey)]

/-! ### Every record can make the trip -/

/-- A pipeline whose indexer is about to send a record to the dead-letter topic. -/
def sendingState (original : PlacedRecord) : PipelineState Unit Unit Unit Nat :=
  { (.initial : PipelineState Unit Unit Unit Nat) with
    handling := fun _ => some ⟨original.partition, 0, original.record, .publishingToDlq⟩ }

/-- A pipeline whose redrive is about to put a record back. -/
def republishingState (record : KafkaRecord) : PipelineState Unit Unit Unit Nat :=
  { (.initial : PipelineState Unit Unit Unit Nat) with
    sessions := fun _ =>
      some { RedriveSession.start ⟨false, 1⟩ with phase := .republishing 0 0 record } }

/-- The partition the partitioner picks for a record; one without a key may go anywhere. -/
def place (partitioner : Bytes → Nat) (record : KafkaRecord) : PlacedRecord :=
  ⟨(record.key.map partitioner).getD 0, record⟩

theorem exists_roundTrip (partitioner : Bytes → Nat) (partition : Nat) (record : KafkaRecord) :
    RoundTrip Unit Unit Unit Nat .plain .default isoRuntime partitioner ⟨partition, record⟩
      (place partitioner (dlqRecord record)) := by
  refine ⟨dlqRecord record,
    ⟨sendingState ⟨partition, record⟩, _, (), 0, .acknowledged, 0, rfl, rfl, rfl⟩,
    ⟨republishingState (dlqRecord record), _, (), _, 0, 0, .acknowledged, rfl, rfl, rfl, ?_⟩, ?_⟩
  · exact Topic.read_append_last _ _ _
  · intro key isKey
    show ((dlqRecord record).key.map partitioner).getD 0 = partitioner key
    rw [show (dlqRecord record).key = some key from isKey]
    rfl

/-- The partitioner of a topic with one partition. -/
def onePartition : Bytes → Nat := fun _ => 0

/-- Two round trips of a record whose key is UTF-8. -/
theorem dlq_round_trips_ascii :
    ∃ returned, Relation.TransGen
        (RoundTrip Unit Unit Unit Nat .plain .default isoRuntime onePartition)
        ⟨0, ⟨some [0x6B], some [0x7B, 0xFF]⟩⟩ returned ∧
      IsPreserved onePartition ⟨0, ⟨some [0x6B], some [0x7B, 0xFF]⟩⟩ returned := by
  have trips := Relation.TransGen.tail
    (Relation.TransGen.single (exists_roundTrip onePartition 0 ⟨some [0x6B], some [0x7B, 0xFF]⟩))
    (exists_roundTrip onePartition _ _)
  refine ⟨_, trips, (dlq_round_trips_iff trips).mpr ?_⟩
  intro key isKey
  have same : [0x6B] = key := Option.some.inj isKey
  rw [← same, ← utf8Encode_utf8Decode_iff]
  decide

/-- A key that is no UTF-8 comes back as another. -/
theorem invalid_key_replaced :
    ∃ returned, RoundTrip Unit Unit Unit Nat .plain .default isoRuntime onePartition
        ⟨0, ⟨some [0xFF], none⟩⟩ returned ∧
      ¬ IsPreserved onePartition ⟨0, ⟨some [0xFF], none⟩⟩ returned := by
  refine ⟨_, exists_roundTrip onePartition 0 ⟨some [0xFF], none⟩, fun preserved => ?_⟩
  have same : (dlqRecord ⟨some [0xFF], none⟩).key = some [0xFF] :=
    congrArg KafkaRecord.key preserved.1
  exact absurd same (by decide)

end MessageManagement
