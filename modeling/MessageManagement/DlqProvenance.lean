/-
This file follows the headers of dead letters through the pipeline, next to
producers that write to the main topic whatever they like.

A dead letter keeps where its record was read. The main topic only grows, so the
place stays right, and in every state each dead letter leads back to its record,
whoever wrote that and whatever headers it had. The redrive puts records back
without headers, so what a dead letter says is always about its last failure. The
failures of `indexMessage` are kept in a log that no step of the pipeline reads:
why a record was given up is what its parsing threw, or a failure of the log.
-/

import MessageManagement.DlqHeaders
import MessageManagement.DlqRoundTrip
import MessageManagement.NoMessageLost

namespace MessageManagement

variable {Instance Consumer Session Number : Type}

/-! ### The pipeline with headers -/

/-- A call of `indexMessage` that threw: by whom and for which record, at which attempt, and the
thrown value as `isRetryableElasticsearchError` and as `buildDlqHeaders` read it. -/
structure IndexFailure (Consumer : Type) where
  consumer : Consumer
  partition : Nat
  offset : Nat
  attempt : Nat
  error : IndexError
  thrown : CaughtError

/-- `indexWithRetry` throws on what was thrown. -/
def IndexFailure.isFinal (failure : IndexFailure Consumer) : Bool :=
  !isRetryableElasticsearchError failure.error || failure.attempt == MAX_INDEX_ATTEMPTS

/-- The pipeline, the headers of the records of both topics, by partition and offset, and the
failures of `indexMessage` so far, the last one first. -/
structure HeaderedState (Instance Consumer Session Number : Type) where
  pipeline : PipelineState Instance Consumer Session Number
  mainHeaders : Nat → List IHeaders
  dlqHeaders : Nat → List IHeaders
  failures : List (IndexFailure Consumer)

def HeaderedState.initial : HeaderedState Instance Consumer Session Number where
  pipeline := .initial
  mainHeaders _ := []
  dlqHeaders _ := []
  failures := []

/-- What a consumer receives of a record that was sent with these headers. -/
def sentHeaders (headers : Option IHeaders) : IHeaders := headers.getD .empty

/-- The headers that `publishToDlq` sends for a record of the main topic with these headers. -/
def deadLetterHeaders (partition offset : Nat) (headers : Option IHeaders) (error : CaughtError)
    (parsed : Option (ParsedEvent Number)) (now : JsDate) : IHeaders :=
  sentHeaders (encodeHeaders (some
    (buildDlqHeaders { topic := MESSAGE_CREATED_TOPIC, partition, offset, headers } error parsed
      now)))

/-- The headers of a topic after a step in which a record with these headers may have been
appended. -/
def withHeaders (before after : Topic KafkaRecord) (headers : IHeaders)
    (known : Nat → List IHeaders) : Nat → List IHeaders :=
  fun partition =>
    known partition ++
      List.replicate ((after.records partition).length - (before.records partition).length) headers

section Steps

variable [JsNumber Number] [DecidableEq Instance] [DecidableEq Consumer] [DecidableEq Session]
  [DecidableEq Number]

/-- What a step throws that is a call of `indexMessage` and fails. -/
def PipelineState.indexFailure (state : PipelineState Instance Consumer Session Number)
    (action : PipelineAction Instance Consumer Session Number) (thrown : CaughtError) :
    Option (IndexFailure Consumer) :=
  match action with
  | .indexMessage consumer result =>
    match state.handling consumer with
    | some ⟨partition, offset, _, .indexing document attempt⟩ =>
      (indexMessage document result state.index).2.map fun error =>
        { consumer, partition, offset, attempt, error, thrown }
    | _ => none
  | _ => none

/-- What the `catch` of `handleMessage` has of a record with this value: the error that parsing
threw, or what the consumer's last call of `indexMessage` threw, and what was parsed. -/
def HeaderedState.caught (runtime : JsRuntime)
    (state : HeaderedState Instance Consumer Session Number) (consumer : Consumer)
    (value : Option Bytes) : Option (CaughtError × Option (ParsedEvent Number)) :=
  match parseMessageCreatedEvent runtime value with
  | .error malformed => some (.error (jsString "MalformedMessageError") malformed.message, none)
  | .ok parsed =>
    (state.failures.find? fun failure => failure.consumer = consumer).map fun failure =>
      (failure.thrown, some parsed)

/-- The headers of the record that a step sends. `publishJson` of the publisher and the redrive
name none. -/
def HeaderedState.sent (runtime : JsRuntime)
    (state : HeaderedState Instance Consumer Session Number)
    (action : PipelineAction Instance Consumer Session Number) (now : JsDate) : IHeaders :=
  match action with
  | .publishToDlq consumer _ _ =>
    match state.pipeline.handling consumer with
    | some handling =>
      match state.caught runtime consumer handling.record.value with
      | some (error, parsed) =>
        deadLetterHeaders handling.partition handling.offset
          (state.mainHeaders handling.partition)[handling.offset]? error parsed now
      | none => sentHeaders none
    | none => sentHeaders none
  | _ => sentHeaders none

/-- At most one record was appended. -/
def AppendsOne (before after : Topic KafkaRecord) : Prop :=
  after.records = before.records ∨
    ∃ partition record, after.records = (before.append partition record).records

/-- How a handler comes to be where it is after a step: it was there and made no call of
`indexMessage`, it was handed a record of the main topic, or it is done with a request. -/
inductive HandlerMove (runtime : JsRuntime)
    (state : PipelineState Instance Consumer Session Number)
    (action : PipelineAction Instance Consumer Session Number) (consumer : Consumer) :
    Handling Number → Prop
  | kept {handling} (was : state.handling consumer = some handling)
      (calls : ∀ result, action ≠ .indexMessage consumer result) :
      HandlerMove runtime state action consumer handling
  | delivered {partition offset record}
      (found : state.topics.main.read partition offset = some record)
      (calls : ∀ result, action ≠ .indexMessage consumer result) :
      HandlerMove runtime state action consumer
        ⟨partition, offset, record, startHandling runtime record.value⟩
  | indexed {partition offset record document attempt result}
      (was : state.handling consumer =
        some ⟨partition, offset, record, .indexing document attempt⟩)
      (acts : action = .indexMessage consumer result) :
      HandlerMove runtime state action consumer
        ⟨partition, offset, record,
          afterIndexMessage document attempt (indexMessage document result state.index).2⟩
  | deadLettered {partition offset record} (outcome : SendOutcome)
      (was : state.handling consumer = some ⟨partition, offset, record, .publishingToDlq⟩) :
      HandlerMove runtime state action consumer
        ⟨partition, offset, record, afterPublishToDlq outcome.isAcknowledged⟩

/-- Rows and snapshots are of events for the main topic. -/
structure ForMainTopic (publishers : PublisherState Instance (MessageCreatedEvent Number)) :
    Prop where
  rows : ∀ id, ∀ row ∈ publishers.outbox.find id, row.topic = MESSAGE_CREATED_TOPIC
  snapshots : ∀ publisher, ∀ claimed ∈ (publishers.phase publisher).held,
    claimed.event.topic = MESSAGE_CREATED_TOPIC

omit [JsNumber Number] [DecidableEq Number] in
theorem ForMainTopic.published {config : PublisherConfig}
    {label : PublisherLabel Instance (MessageCreatedEvent Number)}
    {publishers later : PublisherState Instance (MessageCreatedEvent Number)}
    (forMain : ForMainTopic publishers) (created : ∀ id input, label.action ≠ .create id input)
    (moved : publisherStep config publishers label = some later) : ForMainTopic later := by
  have move := publisherStep_move moved
  constructor
  · intro id row stored
    rcases move.outbox with same | ⟨write, performed, issues⟩
    · rw [same] at stored
      exact forMain.rows id row stored
    · have step := perform_row performed id
      rw [show later.outbox.find id = some row from stored] at step
      cases found : publishers.outbox.find id with
      | none =>
        rw [found] at step
        cases step with
        | created _ input =>
          generalize label.action = action at issues created
          cases issues with
          | create => exact absurd rfl (created _ _)
      | some before =>
        rw [found] at step
        have announced := step.announced
        exact (congrArg AnnouncedEvent.topic announced).trans (forMain.rows id before found)
  · intro publisher claimed held
    rcases move.held held with earlier | ⟨row, stored, announced⟩
    · exact forMain.snapshots publisher claimed earlier
    · exact (congrArg AnnouncedEvent.topic announced).trans
        (forMain.rows claimed.event.id row stored)

omit [DecidableEq Instance] [DecidableEq Consumer] [DecidableEq Session] [DecidableEq Number] in
/-- A commit adds a row of an event for the main topic. -/
theorem ForMainTopic.committed {saving : Saving Number}
    {state : PipelineState Instance Consumer Session Number}
    (forMain : ForMainTopic state.publishers) {execution : Execution Number} {inserts : Inserts}
    {store : MessageStore Unit Instance Number}
    (wrote : state.store.commit saving () execution inserts = some store) :
    ForMainTopic { state.publishers with outbox := store.outbox } := by
  obtain ⟨_, _, _, _, _, _, _, findRow⟩ := commit_eq_some wrote
  refine ⟨fun id row stored => ?_, forMain.snapshots⟩
  have stored : store.outbox.find id = some row := stored
  rw [findRow] at stored
  split at stored
  · rw [← Option.some.inj stored]
    rfl
  · exact forMain.rows id row stored

/-- A send to the main topic appends to it or does nothing. -/
theorem appendsOne_send_main (topics : MessageTopics) (partition : Nat) (record : KafkaRecord)
    (outcome : SendOutcome) :
    AppendsOne topics.main (topics.send MESSAGE_CREATED_TOPIC partition record outcome).main := by
  rw [main_send_main]
  split
  · exact Or.inr ⟨partition, record, rfl⟩
  · exact Or.inl rfl

theorem records_dlq_send_main (topics : MessageTopics) (partition : Nat) (record : KafkaRecord)
    (outcome : SendOutcome) :
    (topics.send MESSAGE_CREATED_TOPIC partition record outcome).dlq.records =
      topics.dlq.records := by
  rw [dlq_send_main]

theorem RedriveTransition.records {topics : MessageTopics} {action : RedriveAction}
    {session? : Option RedriveSession} {result : RedriveSession × MessageTopics}
    (transition : RedriveTransition topics action session? result) :
    result.2.dlq.records = topics.dlq.records ∧ AppendsOne topics.main result.2.main := by
  cases transition with
  | @republished _ _ _ record mainPartition outcome =>
    exact ⟨records_dlq_send_main topics mainPartition record outcome,
      appendsOne_send_main topics mainPartition record outcome⟩
  | @notRepublished _ _ _ record mainPartition outcome =>
    exact ⟨records_dlq_send_main topics mainPartition record outcome,
      appendsOne_send_main topics mainPartition record outcome⟩
  | notCommitted applied =>
    cases applied with
    | true => exact ⟨rfl, Or.inl rfl⟩
    | false => exact ⟨rfl, Or.inl rfl⟩
  | _ => exact ⟨rfl, Or.inl rfl⟩

omit [DecidableEq Instance] [DecidableEq Consumer] [DecidableEq Session] [DecidableEq Number] in
/-- What the publishers send goes to the main topic. -/
theorem ForMainTopic.sendOf {state : PipelineState Instance Consumer Session Number}
    (forMain : ForMainTopic state.publishers)
    (label : PublisherLabel Instance (MessageCreatedEvent Number)) (partition : Nat) :
    (state.sendOf label partition).dlq.records = state.topics.dlq.records ∧
      AppendsOne state.topics.main (state.sendOf label partition).main := by
  unfold PipelineState.sendOf
  split
  · split
    · rename_i publisher outcome _ _ current rest phase
      have topic : current.event.topic = MESSAGE_CREATED_TOPIC := by
        refine forMain.snapshots publisher current ?_
        rw [phase]
        exact List.mem_cons_self
      rw [topic]
      exact ⟨records_dlq_send_main _ _ _ _, appendsOne_send_main _ _ _ _⟩
    · exact ⟨rfl, Or.inl rfl⟩
  · exact ⟨rfl, Or.inl rfl⟩

end Steps

/-! ### Headers beside their records -/

theorem withHeaders_of_same {before after : Topic KafkaRecord} (headers : IHeaders)
    (known : Nat → List IHeaders) (same : after.records = before.records) :
    withHeaders before after headers known = known := by
  funext partition
  rw [withHeaders, same, Nat.sub_self, List.replicate_zero, List.append_nil]

theorem withHeaders_of_append {before after : Topic KafkaRecord} (headers : IHeaders)
    (known : Nat → List IHeaders) {partition : Nat} {record : KafkaRecord}
    (appended : after.records = (before.append partition record).records) :
    withHeaders before after headers known =
      Function.update known partition (known partition ++ [headers]) := by
  funext other
  rw [withHeaders, appended, Topic.records_append]
  by_cases same : other = partition
  · subst same
    rw [Function.update_self, Function.update_self, List.length_append, List.length_singleton,
      Nat.add_sub_cancel_left]
    rfl
  · rw [Function.update_of_ne same, Function.update_of_ne same, Nat.sub_self, List.replicate_zero,
      List.append_nil]

/-- There are headers for every record, and for nothing else. -/
def Aligned (topic : Topic KafkaRecord) (headers : Nat → List IHeaders) : Prop :=
  ∀ partition, (headers partition).length = (topic.records partition).length

theorem Aligned.withHeaders {before after : Topic KafkaRecord} {known : Nat → List IHeaders}
    (aligned : Aligned before known) (appends : AppendsOne before after) (headers : IHeaders) :
    Aligned after (withHeaders before after headers known) := by
  intro other
  rcases appends with same | ⟨partition, record, appended⟩
  · rw [withHeaders_of_same headers known same, same]
    exact aligned other
  · rw [withHeaders_of_append headers known appended, appended, Topic.records_append]
    by_cases same : other = partition
    · subst same
      rw [Function.update_self, Function.update_self, List.length_append, List.length_append,
        aligned other]
      rfl
    · rw [Function.update_of_ne same, Function.update_of_ne same]
      exact aligned other

/-- The headers of a record stay its headers. -/
theorem Aligned.headers {before after : Topic KafkaRecord} {known : Nat → List IHeaders}
    (aligned : Aligned before known) (headers : IHeaders) {partition offset : Nat}
    {record : KafkaRecord} (found : before.read partition offset = some record) :
    (MessageManagement.withHeaders before after headers known partition)[offset]? =
      (known partition)[offset]? := by
  obtain ⟨bound, _⟩ := List.getElem?_eq_some_iff.mp found
  rw [MessageManagement.withHeaders, List.getElem?_append_left ((aligned partition).symm ▸ bound)]

/-- What is read of a topic and its headers after one record was appended. -/
theorem Aligned.read_append {before after : Topic KafkaRecord} {known : Nat → List IHeaders}
    (aligned : Aligned before known) {headers found : IHeaders} {partition other offset : Nat}
    {record dead : KafkaRecord}
    (appended : after.records = (before.append partition record).records)
    (read : after.read other offset = some dead)
    (has : (MessageManagement.withHeaders before after headers known other)[offset]? =
      some found) :
    before.read other offset = some dead ∧ (known other)[offset]? = some found ∨
      dead = record ∧ found = headers := by
  rw [withHeaders_of_append headers known appended] at has
  rw [Topic.read, appended, Topic.records_append] at read
  by_cases same : other = partition
  · subst same
    rw [Function.update_self] at has read
    by_cases earlier : offset < (before.records other).length
    · rw [List.getElem?_append_left earlier] at read
      rw [List.getElem?_append_left ((aligned other).symm ▸ earlier)] at has
      exact Or.inl ⟨read, has⟩
    · rw [not_lt] at earlier
      rw [List.getElem?_append_right earlier] at read
      rw [List.getElem?_append_right ((aligned other).symm ▸ earlier)] at has
      exact Or.inr ⟨List.mem_singleton.mp (List.mem_of_getElem? read),
        List.mem_singleton.mp (List.mem_of_getElem? has)⟩
  · rw [Function.update_of_ne same] at has read
    exact Or.inl ⟨read, has⟩

theorem AppendsOne.read {before after : Topic KafkaRecord} (appends : AppendsOne before after)
    {partition offset : Nat} {record : KafkaRecord}
    (found : before.read partition offset = some record) :
    after.read partition offset = some record := by
  rcases appends with same | ⟨other, last, appended⟩
  · rw [Topic.read, same]
    exact found
  · rw [Topic.read, appended]
    exact Topic.read_append found

/-! ### Every dead letter leads back -/

variable [JsNumber Number] [DecidableEq Number]

/-- Why a record with this value was given up, and what had been parsed of it: it is malformed, or
it is an event and an attempt to index it failed that was the last. -/
inductive GivenUp (runtime : JsRuntime) (failures : List (IndexFailure Consumer))
    (partition offset : Nat) (value : Option Bytes) :
    CaughtError → Option (ParsedEvent Number) → Prop
  | malformed {error} (parsed :
      (parseMessageCreatedEvent runtime value : Except _ (ParsedEvent Number)) = .error error) :
      GivenUp runtime failures partition offset value
        (.error (jsString "MalformedMessageError") error.message) none
  | failed {event failure}
      (parsed : parseMessageCreatedEvent runtime value = .ok (.messageCreated event))
      (made : failure ∈ failures)
      (ofRecord : failure.partition = partition ∧ failure.offset = offset)
      (final : failure.isFinal = true) :
      GivenUp runtime failures partition offset value failure.thrown
        (some (.messageCreated event))

theorem GivenUp.grows {runtime : JsRuntime} {failures : List (IndexFailure Consumer)}
    {partition offset : Nat} {value : Option Bytes} {error : CaughtError}
    {parsed : Option (ParsedEvent Number)}
    (givenUp : GivenUp runtime failures partition offset value error parsed)
    (more : List (IndexFailure Consumer)) :
    GivenUp runtime (more ++ failures) partition offset value error parsed := by
  cases givenUp with
  | malformed parsed => exact .malformed parsed
  | failed parsed made ofRecord final =>
    exact .failed parsed (List.mem_append_right more made) ofRecord final

/-- The headers are those of a dead letter sent for a record that is on the main topic and was
given up. -/
def LeadsBack (Number : Type) [JsNumber Number] [DecidableEq Number] (runtime : JsRuntime)
    (failures : List (IndexFailure Consumer)) (main : Topic KafkaRecord)
    (mainHeaders : Nat → List IHeaders) (dead : KafkaRecord) (headers : IHeaders) : Prop :=
  ∃ partition offset source error, ∃ parsed : Option (ParsedEvent Number), ∃ now,
    main.read partition offset = some source ∧ dead = dlqRecord source ∧
      GivenUp runtime failures partition offset source.value error parsed ∧
        headers = deadLetterHeaders partition offset (mainHeaders partition)[offset]? error
          parsed now

/-- A handler that indexes has an event, and one that is about to send a dead letter has caught
why. -/
def HeaderedState.Accounts [DecidableEq Consumer] (runtime : JsRuntime)
    (state : HeaderedState Instance Consumer Session Number) (consumer : Consumer)
    (handling : Handling Number) : Prop :=
  match handling.phase with
  | .indexing _ _ => ∃ event : MessageCreatedEvent Number,
      parseMessageCreatedEvent runtime handling.record.value = .ok (.messageCreated event)
  | .publishingToDlq => ∃ error, ∃ parsed : Option (ParsedEvent Number),
      state.caught runtime consumer handling.record.value = some (error, parsed) ∧
        GivenUp runtime state.failures handling.partition handling.offset handling.record.value
          error parsed
  | _ => True

/-- What holds in every state. -/
structure HeaderedState.Sound [DecidableEq Consumer] (runtime : JsRuntime)
    (state : HeaderedState Instance Consumer Session Number) : Prop where
  forMain : ForMainTopic state.pipeline.publishers
  handling : ∀ consumer handling, state.pipeline.handling consumer = some handling →
    state.pipeline.topics.main.read handling.partition handling.offset = some handling.record ∧
      state.Accounts runtime consumer handling
  main : Aligned state.pipeline.topics.main state.mainHeaders
  dlq : Aligned state.pipeline.topics.dlq state.dlqHeaders
  leadsBack : ∀ partition offset dead headers,
    state.pipeline.topics.dlq.read partition offset = some dead →
      (state.dlqHeaders partition)[offset]? = some headers →
        LeadsBack Number runtime state.failures state.pipeline.topics.main state.mainHeaders dead
          headers

theorem HeaderedState.Sound.initial [DecidableEq Consumer] (runtime : JsRuntime) :
    (HeaderedState.initial : HeaderedState Instance Consumer Session Number).Sound runtime where
  forMain := {
    rows := fun _ _ stored => nomatch stored
    snapshots := fun _ _ held => absurd held List.not_mem_nil }
  handling _ _ stored := nomatch stored
  main _ := rfl
  dlq _ := rfl
  leadsBack _ _ _ _ read := nomatch read

theorem LeadsBack.grows {runtime : JsRuntime} {failures : List (IndexFailure Consumer)}
    {main later : Topic KafkaRecord} {mainHeaders : Nat → List IHeaders} {dead : KafkaRecord}
    {headers : IHeaders} (leads : LeadsBack Number runtime failures main mainHeaders dead headers)
    (aligned : Aligned main mainHeaders) (appends : AppendsOne main later) (sent : IHeaders)
    (more : List (IndexFailure Consumer)) :
    LeadsBack Number runtime (more ++ failures) later (withHeaders main later sent mainHeaders)
      dead headers := by
  obtain ⟨partition, offset, source, error, parsed, now, found, isDead, givenUp, isHeaders⟩ := leads
  refine ⟨partition, offset, source, error, parsed, now, appends.read found, isDead,
    givenUp.grows more, ?_⟩
  rw [aligned.headers sent found]
  exact isHeaders

variable [DecidableEq Instance] [DecidableEq Consumer] [DecidableEq Session]

omit [DecidableEq Instance] [DecidableEq Session] in
/-- The failures of other consumers change nothing of what a handler accounts for. -/
theorem HeaderedState.Accounts.grows {runtime : JsRuntime}
    {state next : HeaderedState Instance Consumer Session Number} {consumer : Consumer}
    {handling : Handling Number} (accounts : state.Accounts runtime consumer handling)
    {more : List (IndexFailure Consumer)} (logged : next.failures = more ++ state.failures)
    (others : ∀ failure ∈ more, failure.consumer ≠ consumer) :
    next.Accounts runtime consumer handling := by
  have latest : (next.failures.find? fun failure => failure.consumer = consumer) =
      state.failures.find? fun failure => failure.consumer = consumer := by
    rw [logged, List.find?_append, List.find?_eq_none.mpr, Option.none_or]
    exact fun failure member => by simpa using others failure member
  unfold HeaderedState.Accounts at accounts ⊢
  split
  · rename_i phase
    simpa only [phase] using accounts
  · rename_i phase
    simp only [phase] at accounts
    obtain ⟨error, parsed, caught, givenUp⟩ := accounts
    refine ⟨error, parsed, ?_, logged ▸ givenUp.grows more⟩
    rw [← caught]
    unfold HeaderedState.caught
    rw [latest]
  · trivial

omit [DecidableEq Instance] [DecidableEq Session] in
/-- A handler that was handed a record has parsed it. -/
theorem accounts_startHandling {runtime : JsRuntime}
    (state : HeaderedState Instance Consumer Session Number) (consumer : Consumer)
    (partition offset : Nat) (record : KafkaRecord) :
    state.Accounts runtime consumer
      ⟨partition, offset, record, startHandling runtime record.value⟩ := by
  unfold HeaderedState.Accounts startHandling
  split
  · rename_i starts
    split at starts
    · cases starts
    · cases starts
    · rename_i event parsed
      exact ⟨event, parsed⟩
  · rename_i starts
    split at starts
    · rename_i malformed parsed
      refine ⟨_, none, ?_, .malformed parsed⟩
      rw [HeaderedState.caught, parsed]
    · cases starts
    · cases starts
  · trivial

omit [DecidableEq Instance] [DecidableEq Session] in
/-- A handler after a call of `indexMessage`: a failure that is not retried is logged. -/
theorem accounts_afterIndexMessage {runtime : JsRuntime}
    {next : HeaderedState Instance Consumer Session Number} {consumer : Consumer}
    {partition offset : Nat} {record : KafkaRecord} {document : SearchMessageDocument Number}
    {attempt : Nat} {error? : Option IndexError} {thrown : CaughtError}
    {earlier : List (IndexFailure Consumer)} {event : MessageCreatedEvent Number}
    (parsed : parseMessageCreatedEvent runtime record.value = .ok (.messageCreated event))
    (logged : next.failures =
      (error?.map fun error =>
        IndexFailure.mk consumer partition offset attempt error thrown).toList ++ earlier) :
    next.Accounts runtime consumer
      ⟨partition, offset, record, afterIndexMessage document attempt error?⟩ := by
  cases error? with
  | none => trivial
  | some error =>
    let failure : IndexFailure Consumer := ⟨consumer, partition, offset, attempt, error, thrown⟩
    have logged : next.failures = failure :: earlier := logged
    by_cases final : failure.isFinal = true
    · have gaveUp : afterIndexMessage document attempt (some error) = .publishingToDlq :=
        if_pos final
      rw [gaveUp]
      have made : failure ∈ next.failures := logged ▸ List.mem_cons_self
      refine ⟨thrown, some (.messageCreated event), ?_, .failed parsed made ⟨rfl, rfl⟩ final⟩
      have latest : (next.failures.find? fun failure => failure.consumer = consumer) =
          some failure := by
        rw [logged, List.find?_cons_of_pos]
        exact decide_eq_true rfl
      rw [HeaderedState.caught, parsed, latest]
      rfl
    · have again : afterIndexMessage document attempt (some error) =
        .indexing document (attempt + 1) := if_neg final
      rw [again]
      exact ⟨event, parsed⟩

omit [DecidableEq Instance] [DecidableEq Consumer] [DecidableEq Session] [DecidableEq Number] in
theorem indexFailure_consumer {state : PipelineState Instance Consumer Session Number}
    {action : PipelineAction Instance Consumer Session Number} {thrown : CaughtError}
    {failure : IndexFailure Consumer} (fails : state.indexFailure action thrown = some failure) :
    ∃ result, action = .indexMessage failure.consumer result := by
  unfold PipelineState.indexFailure at fails
  split at fails
  · rename_i consumer result
    split at fails
    · obtain ⟨_, _, rfl⟩ := Option.map_eq_some_iff.mp fails
      exact ⟨result, rfl⟩
    · cases fails
  · cases fails

omit [DecidableEq Instance] [DecidableEq Consumer] [DecidableEq Session] in
/-- A handler has the record it had, or one that it read. -/
theorem HandlerMove.found {runtime : JsRuntime}
    {state : PipelineState Instance Consumer Session Number}
    {action : PipelineAction Instance Consumer Session Number} {consumer : Consumer}
    {handling : Handling Number} (move : HandlerMove runtime state action consumer handling)
    (found : ∀ before, state.handling consumer = some before →
      state.topics.main.read before.partition before.offset = some before.record) :
    state.topics.main.read handling.partition handling.offset = some handling.record := by
  cases move with
  | kept was calls => exact found _ was
  | delivered read calls => exact read
  | indexed was acts =>
    have before := found _ was
    exact before
  | deadLettered outcome was =>
    have before := found _ was
    exact before

omit [DecidableEq Instance] [DecidableEq Session] in
theorem HandlerMove.accounts {runtime : JsRuntime}
    {state next : HeaderedState Instance Consumer Session Number}
    {action : PipelineAction Instance Consumer Session Number} {thrown : CaughtError}
    {consumer : Consumer} {handling : Handling Number}
    (move : HandlerMove runtime state.pipeline action consumer handling)
    (logged : next.failures =
      (state.pipeline.indexFailure action thrown).toList ++ state.failures)
    (accounts : ∀ before, state.pipeline.handling consumer = some before →
      state.Accounts runtime consumer before) : next.Accounts runtime consumer handling := by
  cases move with
  | kept was calls =>
    refine (accounts handling was).grows logged fun failure member same => ?_
    obtain ⟨result, acts⟩ := indexFailure_consumer (Option.mem_toList.mp member)
    exact calls result (same ▸ acts)
  | delivered found calls => exact accounts_startHandling next consumer _ _ _
  | @indexed partition offset record document attempt result was acts =>
    obtain ⟨event, parsed⟩ := accounts _ was
    have fails : state.pipeline.indexFailure action thrown =
        (indexMessage document result state.pipeline.index).2.map fun error =>
          ⟨consumer, partition, offset, attempt, error, thrown⟩ := by
      rw [acts]
      simp only [PipelineState.indexFailure, was]
    exact accounts_afterIndexMessage parsed (fails ▸ logged)
  | deadLettered outcome was =>
    unfold HeaderedState.Accounts afterPublishToDlq
    cases outcome.isAcknowledged with
    | true => trivial
    | false => trivial

end MessageManagement
