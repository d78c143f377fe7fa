/-
This file proves that no state of the pipeline is a dead end: whatever crashed,
failed or went to the dead-letter topic before, the pipeline can go on so that
the search index holds the document of every message whose event the search
indexers accept, and it never holds one of another.

The way on is that of an operator. A failed row is redriven and a new publisher
drains the outbox; a record in the dead-letter topic is put back by a new run of
the redrive; what lies ahead in the main topic is delivered and indexed. Each
leaves the custody of the messages as it should be, so the messages can be dealt
with one after the other.
-/

import MessageManagement.PublisherDrain
import MessageManagement.SearchAgreement

namespace MessageManagement

variable {Instance Consumer Session Number : Type} [JsNumber Number]

/-- No message is created on the way, and records are delivered only ahead of what the search
indexers have passed. -/
def IsRepair (state : PipelineState Instance Consumer Session Number) :
    PipelineAction Instance Consumer Session Number → Prop
  | .commit _ _ _ => False
  | .deliver _ partition offset => state.topics.main.passed partition ≤ offset
  | _ => True

section Steps

variable [DecidableEq Instance] [DecidableEq Consumer] [DecidableEq Session] [DecidableEq Number]

/-- The pipeline can go on from one state to the other. -/
abbrev Recovers (saving : Saving Number) (config : PublisherConfig) (runtime : JsRuntime)
    (start finish : PipelineState Instance Consumer Session Number) : Prop :=
  Transition.ReachesAlong (pipelineStep saving config runtime) IsRepair start finish

variable {saving : Saving Number} {config : PublisherConfig} {runtime : JsRuntime}
  {state next : PipelineState Instance Consumer Session Number}
  {action : PipelineAction Instance Consumer Session Number}

/-! ### What a step leaves alone -/

/-- A step changes the publishers as a step of their system does, if at all, and the run of one
redrive at most. -/
structure StepFrame (config : PublisherConfig)
    (state : PipelineState Instance Consumer Session Number)
    (action : PipelineAction Instance Consumer Session Number)
    (next : PipelineState Instance Consumer Session Number) : Prop where
  saved : IsRepair state action →
    next.messages = state.messages ∧ next.committed = state.committed
  publishers : next.publishers = state.publishers ∨
    ∃ label, publisherStep config state.publishers label = some next.publishers
  sessions : next.sessions = state.sessions ∨
    ∃ session, ∀ other, other ≠ session → next.sessions other = state.sessions other

omit [DecidableEq Consumer] [DecidableEq Session] [DecidableEq Number] in
theorem StepFrame.of_same (messages : next.messages = state.messages)
    (committed : next.committed = state.committed)
    (publishers : next.publishers = state.publishers)
    (sessions : next.sessions = state.sessions) : StepFrame config state action next :=
  ⟨fun _ => ⟨messages, committed⟩, Or.inl publishers, Or.inl sessions⟩

theorem pipelineStep_frame (moved : pipelineStep saving config runtime state action = some next) :
    StepFrame config state action next := by
  cases pipelineStep_transition moved with
  | @committed command now inserts store wrote =>
    refine ⟨False.elim, Or.inr ?_, Or.inl rfl⟩
    unfold MessageStore.commit at wrote
    split at wrote
    · split at wrote
      · rename_i freshRow
        rw [← Option.some.inj wrote]
        refine ⟨⟨0, .create inserts.rowId (savedOutboxInput saving (Execution.outboxInput
          ⟨command.toCreateMessageCommand, now, .callback⟩ inserts))⟩, ?_⟩
        rw [publisherStep]
        dsimp only
        rw [PublisherState.write, perform,
          dif_pos (show inserts.rowId ∉ state.publishers.outbox.keys from freshRow)]
        rfl
      · cases wrote
    · cases wrote
  | @published label _ _ _ stepped =>
    exact ⟨fun _ => ⟨rfl, rfl⟩, Or.inr ⟨label, stepped⟩, Or.inl rfl⟩
  | @redriven session =>
    exact ⟨fun _ => ⟨rfl, rfl⟩, Or.inl rfl, Or.inr ⟨session, fun other different =>
      Function.update_of_ne different _ _⟩⟩
  | _ => exact .of_same rfl rfl rfl rfl

omit [DecidableEq Consumer] [DecidableEq Session] [DecidableEq Number] [JsNumber Number] in
/-- A step of the publishers changes the phase of one instance at most. -/
theorem publisherStep_phases {Payload : Type} {state next : PublisherState Instance Payload}
    {label : PublisherLabel Instance Payload}
    (moved : publisherStep config state label = some next) :
    next.phase = state.phase ∨
      ∃ publisher, ∀ other, other ≠ publisher → next.phase other = state.phase other := by
  have written : ∀ {write : OutboxAction Instance Payload}
      {written : PublisherState Instance Payload} {publisher : Instance}
      {phase : Phase Instance Payload}, state.write config write = some written →
      ∀ other, other ≠ publisher →
        (written.setPhase publisher phase).phase other = state.phase other := by
    intro write written publisher phase wrote other different
    refine (if_neg different).trans ?_
    rw [(write_eq_some wrote).2.1]
  have move := publisherStep_move moved
  generalize label.action = action at move
  cases move with
  | environment outside wrote => exact Or.inl (write_eq_some wrote).2.1
  | startRun publisher was => exact Or.inr ⟨publisher, fun other different => if_neg different⟩
  | released publisher phase held unsent leaves =>
    exact Or.inr ⟨publisher, fun other different => if_neg different⟩
  | claimed publisher now claimed event collection write phase was found wrote becomes =>
    exact Or.inr ⟨publisher, written wrote⟩
  | sent publisher outcome current rest phase was held unsent leaves =>
    exact Or.inr ⟨publisher, fun other different => if_neg different⟩
  | marked publisher current rest write phase was wrote held unsent leaves =>
    exact Or.inr ⟨publisher, written wrote⟩
  | failed publisher current error rest random write phase acts was nonneg wrote held unsent
      leaves =>
    exact Or.inr ⟨publisher, written wrote⟩

/-! ### The invariant -/

/-- What holds in every state: the publishers are where their system leads, and all but finitely
many instances and runs of the redrive are still to be started. -/
structure RecoveryInvariant (saving : Saving Number) (config : PublisherConfig)
    (runtime : JsRuntime)
    (state : PipelineState Instance Consumer Session Number) : Prop
    extends ReplicaInvariant saving runtime state where
  followed : ∃ labels,
    Transition.run (publisherStep config) .initial labels = some state.publishers
  working : {publisher | state.publishers.phase publisher ≠ .idle}.Finite
  started : {session | state.sessions session ≠ none}.Finite

omit [DecidableEq Consumer] [DecidableEq Session] in
theorem RecoveryInvariant.initial : RecoveryInvariant saving config runtime
    (.initial : PipelineState Instance Consumer Session Number) where
  toPipelineInvariant := .initial
  replica _ _ stored := by cases stored
  followed := ⟨[], rfl⟩
  working := by
    refine Set.finite_empty.subset fun publisher working => absurd rfl working
  started := by
    refine Set.finite_empty.subset fun session started => absurd rfl started

theorem finite_of_others {Index Value : Type} {before after : Index → Value} {value : Value}
    (finite : {index | before index ≠ value}.Finite)
    (others : after = before ∨ ∃ index, ∀ other, other ≠ index → after other = before other) :
    {index | after index ≠ value}.Finite := by
  rcases others with same | ⟨index, others⟩
  · rw [same]
    exact finite
  · refine (finite.insert index).subset fun other different => ?_
    by_cases own : other = index
    · exact Or.inl own
    · exact Or.inr fun was => different ((others other own).trans was)

variable [LawfulJsNumber Number]

theorem RecoveryInvariant.step (invariant : RecoveryInvariant saving config runtime state)
    (moved : pipelineStep saving config runtime state action = some next) :
    RecoveryInvariant saving config runtime next := by
  have frame := pipelineStep_frame moved
  refine ⟨invariant.toReplicaInvariant.step moved, ?_, ?_, finite_of_others invariant.started
    frame.sessions⟩
  · obtain ⟨labels, followed⟩ := invariant.followed
    rcases frame.publishers with same | ⟨label, stepped⟩
    · rw [same]
      exact ⟨labels, followed⟩
    · exact ⟨labels ++ [label], Transition.run_concat_eq_some.mpr ⟨_, followed, stepped⟩⟩
  · refine finite_of_others invariant.working ?_
    rcases frame.publishers with same | ⟨label, stepped⟩
    · exact Or.inl (congrArg PublisherState.phase same)
    · exact publisherStep_phases stepped

/-! ### From the main topic to the index -/

omit [LawfulJsNumber Number] in
theorem recovers_step (moved : pipelineStep saving config runtime state action = some next)
    (ahead : IsRepair state action) : Recovers saving config runtime state next :=
  .single ahead moved

omit [DecidableEq Instance] [DecidableEq Consumer] [DecidableEq Session] [DecidableEq Number]
  [JsNumber Number] [LawfulJsNumber Number] in
theorem indexMessage_succeeded (index : SearchIndex Number)
    {document : SearchMessageDocument Number}
    (dated : (projectMessageDocument document).isSome = true) :
    (indexMessage document .succeeded index).2 = none := by
  obtain ⟨body, projected⟩ := Option.isSome_iff_exists.mp dated
  rw [indexMessage, projected]

/-- A record that lies ahead is delivered, and its message indexed. -/
theorem RecoveryInvariant.recovers_main [Nonempty Consumer]
    (invariant : RecoveryInvariant saving config runtime state)
    {pair : CommittedPair Unit Instance Number} (member : pair ∈ state.committed)
    (accepted : pair.isAccepted = true) (ahead : state.topics.main.Unpassed (Carries pair)) :
    ∃ next, Recovers saving config runtime state next ∧ IsIndexed runtime next.index pair := by
  obtain ⟨partition, offset, record, found, carries, passed⟩ := ahead
  obtain ⟨consumer⟩ := ‹Nonempty Consumer›
  have current := invariant.isCurrentEvent member
  let document := projectMessageCreatedEvent runtime pair.row.payload
  have starts : startHandling runtime record.value = .indexing document 1 := by
    rw [startHandling, carries, parse_publishJsonValue current,
      if_pos (show isAbsentOrRecord pair.row.payload.payload.metadata = true from accepted)]
  let released := state.release consumer
  let delivered := released.handle consumer ⟨partition, offset, record, .indexing document 1⟩
  have releases : pipelineStep saving config runtime state (.crash consumer) = some released := rfl
  have isFree : released.handling consumer = none := Function.update_self _ _ _
  have isThere : released.topics.main.read partition offset = some record := found
  have delivers : pipelineStep saving config runtime released (.deliver consumer partition offset) =
      some delivered := by
    simp only [pipelineStep, isFree, isThere]
    rw [starts]
  have isHandled : delivered.handling consumer =
      some ⟨partition, offset, record, .indexing document 1⟩ := Function.update_self _ _ _
  have indexes : ∃ next,
      pipelineStep saving config runtime delivered (.indexMessage consumer .succeeded) =
        some next ∧ next.index = (indexMessage document .succeeded state.index).1 := by
    simp only [pipelineStep, isHandled]
    exact ⟨_, rfl, rfl⟩
  obtain ⟨next, indexes, index⟩ := indexes
  refine ⟨next, ?_, ?_⟩
  · exact ((recovers_step releases trivial).trans (recovers_step delivers passed)).trans
      (recovers_step indexes trivial)
  · rw [index]
    refine (isIndexed_indexMessage runtime invariant.saved member .succeeded state.index).2 ?_
    exact indexMessage_succeeded state.index (isSome_projectMessageDocument current.dated)

/-! ### From the dead-letter topic to the main topic -/

/-- A confirmed run of the redrive reads on at this offset of a partition, with room for some more
records. -/
def ReadsOn (session : Session) (partition start room : Nat)
    (state : PipelineState Instance Consumer Session Number) : Prop :=
  ∃ run, state.sessions session = some run ∧ run.phase = .polling ∧ run.input.dryRun = false ∧
    run.position partition = some start ∧ run.consumedCount + room < run.input.limit

omit [LawfulJsNumber Number] in
theorem recovers_redrive {session : Session} {redriveAction : RedriveAction}
    {run : RedriveSession} {topics : MessageTopics}
    (moved : redriveStep state.topics redriveAction (state.sessions session) =
      some (run, topics)) :
    Recovers saving config runtime state
      { state with sessions := Function.update state.sessions session (some run), topics } := by
  have steps : pipelineStep saving config runtime state (.redrive session redriveAction) = some
      { state with sessions := Function.update state.sessions session (some run), topics } := by
    simp only [pipelineStep, moved, Option.map_some]
  exact recovers_step steps trivial

omit [LawfulJsNumber Number] in
/-- The next record is put back. -/
theorem ReadsOn.republishes {session : Session} {partition start room : Nat}
    (reads : ReadsOn session partition start room state) {record : KafkaRecord}
    (found : state.topics.dlq.read partition start = some record) :
    ∃ next, Recovers saving config runtime state next ∧
      next.topics.main = state.topics.main.append 0 record ∧
      (∀ other, next.topics.dlq.read partition other = state.topics.dlq.read partition other) ∧
      ∃ run, next.sessions session = some run ∧ run.phase = .committing partition start ∧
        run.input.dryRun = false ∧ run.consumedCount + room ≤ run.input.limit := by
  obtain ⟨run, stored, polling, confirmed, position, within⟩ := reads
  let consumed : RedriveSession := { run with
    consumedCount := run.consumedCount + 1
    phase := .republishing partition start record }
  have consumes : redriveStep state.topics (.consume partition) (state.sessions session) =
      some (consumed, state.topics) := by
    rw [stored]
    simp only [redriveStep, polling, position, found, Option.map_some, confirmed,
      Bool.false_eq_true, if_false]
    rfl
  let middle : PipelineState Instance Consumer Session Number :=
    { state with sessions := Function.update state.sessions session (some consumed) }
  let republished : RedriveSession := { consumed with
    phase := .committing partition start
    republishedCount := consumed.republishedCount + 1 }
  let sent := state.topics.send MESSAGE_CREATED_TOPIC 0 record .acknowledged
  have republishes : redriveStep middle.topics (.republish 0 .acknowledged)
      (middle.sessions session) =
        some (republished, { sent with dlq := sent.dlq.settle partition start }) := by
    rw [show middle.sessions session = some consumed from Function.update_self _ _ _]
    rfl
  have isSent : sent = { state.topics with main := state.topics.main.append 0 record } := by
    refine (if_pos ?_).trans (if_pos rfl)
    rfl
  refine ⟨_, (recovers_redrive consumes).trans (recovers_redrive republishes), ?_,
    fun other => ?_, republished, Function.update_self _ _ _, rfl, confirmed, ?_⟩
  · show sent.main = _
    rw [isSent]
  · show sent.dlq.read partition other = _
    rw [isSent]
  · show run.consumedCount + 1 + room ≤ run.input.limit
    omega

omit [LawfulJsNumber Number] in
/-- Its offset is committed, and the run reads on behind it. -/
theorem readsOn_commit {session : Session} {partition start room : Nat} {run : RedriveSession}
    (stored : state.sessions session = some run)
    (committing : run.phase = .committing partition start) (confirmed : run.input.dryRun = false)
    (within : run.consumedCount + (room + 1) ≤ run.input.limit) :
    ∃ next, Recovers saving config runtime state next ∧ next.topics.main = state.topics.main ∧
      (∀ other, next.topics.dlq.read partition other = state.topics.dlq.read partition other) ∧
      ReadsOn session partition (start + 1) room next := by
  let committed : RedriveSession := RedriveSession.handled partition start
    { run with committedCount := run.committedCount + 1 }
  have commits : redriveStep state.topics (.commitOffsets .acknowledged)
      (state.sessions session) =
        some (committed,
          { state.topics with dlq := state.topics.dlq.pass partition (start + 1) }) := by
    rw [stored]
    simp only [redriveStep, committing]
    rfl
  refine ⟨_, recovers_redrive commits, rfl, fun _ => rfl, committed, Function.update_self _ _ _,
    ?_, confirmed, Function.update_self _ _ _, ?_⟩
  · exact if_neg (show ¬ run.input.limit ≤ run.consumedCount by omega)
  · show run.consumedCount + room < run.input.limit
    omega

omit [LawfulJsNumber Number] in
/-- A run of the redrive comes to a record that lies ahead, and puts it back. -/
theorem ReadsOn.reaches {session : Session} {partition start distance : Nat}
    (reads : ReadsOn session partition start distance state) {record : KafkaRecord}
    (found : state.topics.dlq.read partition (start + distance) = some record)
    {selects : KafkaRecord → Prop} (selected : selects record) :
    ∃ next, Recovers saving config runtime state next ∧ next.topics.main.Unsettled selects := by
  induction distance generalizing state start with
  | zero =>
    obtain ⟨next, recovers, main, _⟩ := reads.republishes found
    refine ⟨next, recovers, ?_⟩
    rw [main]
    exact Topic.unsettled_append selected 0
  | succ distance inductionHypothesis =>
    obtain ⟨first, isFirst⟩ : ∃ first, state.topics.dlq.read partition start = some first := by
      have bound := (List.getElem?_eq_some_iff.mp found).1
      exact ⟨_, List.getElem?_eq_getElem (by omega)⟩
    obtain ⟨middle, recovers, _, dlq, run, stored, committing, confirmed, within⟩ :=
      reads.republishes isFirst
    obtain ⟨later, further, _, laterDlq, readsLater⟩ :=
      readsOn_commit stored committing confirmed within
    have foundLater : later.topics.dlq.read partition (start + 1 + distance) = some record := by
      rw [laterDlq, dlq, Nat.add_right_comm]
      exact found
    obtain ⟨next, rest, unsettled⟩ := inductionHypothesis readsLater foundLater
    exact ⟨next, (recovers.trans further).trans rest, unsettled⟩

/-- A new run of the redrive puts a record back that lies in the dead-letter topic. -/
theorem RecoveryInvariant.recovers_dlq [Infinite Session]
    (invariant : RecoveryInvariant saving config runtime state)
    {pair : CommittedPair Unit Instance Number}
    (unsettled : state.topics.dlq.Unsettled (Carries pair)) :
    ∃ next, Recovers saving config runtime state next ∧
      next.topics.main.Unpassed (Carries pair) := by
  obtain ⟨partition, offset, record, found, carries, passed⟩ :=
    unsettled.unpassed invariant.topics.dlqPasses
  obtain ⟨session, isNew⟩ := invariant.started.exists_notMem
  have absent : state.sessions session = none := not_not.mp isNew
  let distance := offset - state.topics.dlq.passed partition
  let begun : RedriveSession := .start ⟨false, distance + 1⟩
  have starts : redriveStep state.topics (.start ⟨false, distance + 1⟩) (state.sessions session) =
      some (begun, state.topics) := by
    rw [absent]
    rfl
  let middle : PipelineState Instance Consumer Session Number :=
    { state with sessions := Function.update state.sessions session (some begun) }
  let assigned : RedriveSession := { begun with
    position :=
      Function.update begun.position partition (some (state.topics.dlq.passed partition)) }
  have assigns : redriveStep middle.topics (.assign partition) (middle.sessions session) =
      some (assigned, state.topics) := by
    rw [show middle.sessions session = some begun from Function.update_self _ _ _]
    rfl
  have reads : ReadsOn session partition (state.topics.dlq.passed partition) distance
      { middle with sessions := Function.update middle.sessions session (some assigned) } := by
    refine ⟨assigned, Function.update_self _ _ _, rfl, rfl, Function.update_self _ _ _, ?_⟩
    show 0 + distance < distance + 1
    omega
  have there : state.topics.dlq.read partition (state.topics.dlq.passed partition + distance) =
      some record := by
    rw [Nat.add_sub_cancel' passed]
    exact found
  obtain ⟨next, further, put⟩ := reads.reaches there carries
  have recovers : Recovers saving config runtime state next :=
    ((recovers_redrive starts).trans (recovers_redrive assigns)).trans further
  have later : RecoveryInvariant saving config runtime next :=
    recovers.invariant (fun _ _ _ invariant moved => invariant.step moved) invariant
  exact ⟨next, recovers, put.unpassed later.topics.mainPasses⟩

/-! ### From the outbox to the main topic -/

omit [DecidableEq Instance] [DecidableEq Consumer] [DecidableEq Session] [DecidableEq Number]
  [LawfulJsNumber Number] [JsNumber Number] in
/-- A run that is not disturbed creates no row. -/
theorem not_create_of_mem_runOnceActions {Payload : Type} {publisher : Instance} {count : Nat}
    {action : PublisherAction Instance Payload} (member : action ∈ runOnceActions publisher count)
    (id : ObjectId) (input : CreateOutboxEventInput Payload) : action ≠ .create id input := by
  intro creates
  rw [runOnceActions, List.mem_cons, List.mem_append, List.mem_append, List.mem_singleton]
    at member
  rcases member with rfl | (claims | publishes) | rfl
  · cases creates
  · rw [List.eq_of_mem_replicate claims] at creates
    cases creates
  · obtain ⟨both, isBoth, member⟩ := List.mem_flatten.mp publishes
    rw [List.eq_of_mem_replicate isBoth] at member
    rcases List.mem_cons.mp member with rfl | member
    · cases creates
    · rw [List.mem_singleton.mp member] at creates
      cases creates
  · cases creates

omit [LawfulJsNumber Number] in
/-- What the publishers do, the pipeline does. -/
theorem recovers_publishers {labels : List (PublisherLabel Instance (MessageCreatedEvent Number))}
    {publishers : PublisherState Instance (MessageCreatedEvent Number)}
    (created : ∀ label ∈ labels, ∀ id input, label.action ≠ .create id input)
    (reached : Transition.run (publisherStep config) state.publishers labels = some publishers) :
    ∃ next, Recovers saving config runtime state next ∧ next.publishers = publishers := by
  induction labels generalizing state with
  | nil => exact ⟨state, .refl state, Option.some.inj reached⟩
  | cons label rest inductionHypothesis =>
    obtain ⟨middle, moved, reached⟩ := Option.bind_eq_some_iff.mp reached
    let after : PipelineState Instance Consumer Session Number :=
      { state with publishers := middle, topics := state.sendOf label 0 }
    have steps : pipelineStep saving config runtime state (.publisher label 0) = some after := by
      simp only [pipelineStep]
      split
      · rename_i id input isCreate
        exact absurd isCreate (created label List.mem_cons_self id input)
      · rw [moved]
        rfl
    obtain ⟨next, further, same⟩ : ∃ next, Recovers saving config runtime after next ∧
        next.publishers = publishers :=
      inductionHypothesis (fun other member => created other (List.mem_cons_of_mem _ member))
        reached
    exact ⟨next, (recovers_step steps trivial).trans further, same⟩

omit [LawfulJsNumber Number] in
/-- A new publisher drains the outbox after a redrive of a row. -/
theorem RecoveryInvariant.recovers_outbox [Infinite Instance]
    (invariant : RecoveryInvariant saving config runtime state) (batch : 0 < config.batchSize)
    {id : ObjectId} {row : OutboxEventEntity Instance (MessageCreatedEvent Number)}
    (stored : state.publishers.outbox.find id = some row) (unpublished : row.status ≠ .published) :
    ∃ next, Recovers saving config runtime state next ∧ ∃ after, next.publishers.outbox.find id =
      some after ∧ after.status = .published := by
  let redrive : PublisherLabel Instance (MessageCreatedEvent Number) := ⟨0, .redriveFailed [id]⟩
  obtain ⟨redriven, moved, outbox, phase⟩ : ∃ redriven,
      publisherStep config state.publishers redrive = some redriven ∧
        redriven.outbox = redriveSelected [id] 0 state.publishers.outbox ∧
        redriven.phase = state.publishers.phase := ⟨_, rfl, rfl, rfl⟩
  obtain ⟨live, isStored, isLive⟩ : ∃ live, redriven.outbox.find id = some live ∧
      live.isLive = true := by
    rw [outbox, redriveSelected, Collection.find_updateMany, stored, Option.map_some]
    refine ⟨_, rfl, isLive_iff.mpr ?_⟩
    cases status : row.status with
    | pending =>
      rw [if_neg (by simp)]
      exact Or.inl status
    | publishing =>
      rw [if_neg (by simp)]
      exact Or.inr status
    | published => exact absurd status unpublished
    | failed =>
      rw [if_pos (by simp)]
      exact Or.inl rfl
  obtain ⟨labels, followed⟩ := invariant.followed
  have rows := (publisher_invariant (Transition.run_concat_eq_some.mpr ⟨_, followed, moved⟩)).rows
  obtain ⟨publisher, isIdle⟩ := invariant.working.exists_notMem
  have idle : redriven.phase publisher = .idle := by
    rw [phase]
    exact not_not.mp isIdle
  obtain ⟨instant, drained⟩ := exists_drains batch (fun id row stored => rows id row stored) idle
  let clock : Nat → Int := fun _ => instant
  obtain ⟨counts, final, drains⟩ := drained clock fun _ => le_refl instant
  obtain ⟨after, isAfter, published, _⟩ := drains.published id live isStored isLive
  have reached : Transition.run (publisherStep config) state.publishers
      (redrive :: timed clock (counts.flatMap (runOnceActions publisher))) = some final := by
    rw [Transition.run, moved]
    exact drains.reached
  obtain ⟨next, recovers, same⟩ : ∃ next, Recovers saving config runtime state next ∧
      next.publishers = final := by
    refine recovers_publishers ?_ reached
    intro label member id input
    rcases List.mem_cons.mp member with rfl | member
    · intro creates
      cases creates
    · obtain ⟨count, _, member⟩ := List.mem_flatMap.mp (action_mem_of_mem_timed member)
      exact not_create_of_mem_runOnceActions member id input
  exact ⟨next, recovers, after, same ▸ isAfter, published⟩

/-! ### No dead end -/

/-- What a run of repairs keeps. -/
structure Kept (saving : Saving Number) (config : PublisherConfig) (runtime : JsRuntime)
    (state next : PipelineState Instance Consumer Session Number) : Prop where
  invariant : RecoveryInvariant saving config runtime next
  messages : next.messages = state.messages
  committed : next.committed = state.committed
  indexed : ∀ pair : CommittedPair Unit Instance Number, IsIndexed runtime state.index pair →
    IsIndexed runtime next.index pair

theorem RecoveryInvariant.kept (invariant : RecoveryInvariant saving config runtime state)
    (recovers : Recovers saving config runtime state next) :
    Kept saving config runtime state next := by
  obtain ⟨actions, reached, repairs⟩ := recovers
  induction actions generalizing state with
  | nil =>
    rw [← Option.some.inj reached]
    exact ⟨invariant, rfl, rfl, fun _ indexed => indexed⟩
  | cons action rest inductionHypothesis =>
    obtain ⟨middle, moved, reached⟩ := Option.bind_eq_some_iff.mp reached
    have later := inductionHypothesis (invariant.step moved) reached (repairs.2 middle moved)
    obtain ⟨messages, committed⟩ := (pipelineStep_frame moved).saved repairs.1
    refine ⟨later.invariant, later.messages.trans messages, later.committed.trans committed,
      fun pair indexed => ?_⟩
    obtain ⟨document, isEntry, stored⟩ := indexed
    exact later.indexed pair ⟨document, isEntry,
      invariant.toReplicaInvariant.index_step moved stored⟩

/-- A message that is carried gets indexed. -/
theorem RecoveryInvariant.recovers_carried [Infinite Session] [Nonempty Consumer]
    (invariant : RecoveryInvariant saving config runtime state)
    {pair : CommittedPair Unit Instance Number} (member : pair ∈ state.committed)
    (accepted : pair.isAccepted = true)
    (carried : Carried runtime state.topics state.index pair) :
    ∃ next, Recovers saving config runtime state next ∧ IsIndexed runtime next.index pair := by
  rcases carried with main | dlq | indexed
  · exact invariant.recovers_main member accepted (main.unpassed invariant.topics.mainPasses)
  · obtain ⟨middle, recovers, ahead⟩ : ∃ middle, Recovers saving config runtime state middle ∧
        middle.topics.main.Unpassed (Carries pair) := invariant.recovers_dlq dlq
    have kept := invariant.kept recovers
    obtain ⟨next, further, indexed⟩ :=
      kept.invariant.recovers_main (kept.committed ▸ member) accepted ahead
    exact ⟨next, recovers.trans further, indexed⟩
  · exact ⟨state, .refl state, indexed⟩

/-- Whatever happened to a message that search indexers accept, it gets indexed. -/
theorem RecoveryInvariant.recovers [Infinite Instance] [Infinite Session] [Nonempty Consumer]
    (invariant : RecoveryInvariant saving config runtime state)
    (batch : 0 < config.batchSize) {pair : CommittedPair Unit Instance Number}
    (member : pair ∈ state.committed) (accepted : pair.isAccepted = true) :
    ∃ next, Recovers saving config runtime state next ∧ IsIndexed runtime next.index pair := by
  rcases invariant.accounted pair member with ⟨row, stored, unpublished⟩ | carried
  · obtain ⟨middle, recovers, after, isAfter, published⟩ :=
      invariant.recovers_outbox batch stored unpublished
    have kept := invariant.kept recovers
    -- the row is published now, so the message is in a topic
    rcases kept.invariant.accounted pair (kept.committed ▸ member) with unpublished | carried
    · obtain ⟨row, isRow, unpublished⟩ := unpublished
      rw [isAfter, Option.some_inj] at isRow
      exact absurd (isRow ▸ published) unpublished
    · obtain ⟨next, further, indexed⟩ :=
        kept.invariant.recovers_carried (kept.committed ▸ member) accepted carried
      exact ⟨next, recovers.trans further, indexed⟩
  · exact invariant.recovers_carried member accepted carried

/-- The index holds the documents of the messages that search indexers accept, and no others. -/
structure Mirrors (messages : MessageCollection Number) (index : SearchIndex Number) : Prop where
  message : ∀ id message, messages.find id = some message →
    index id.toString = if isAbsentOrRecord message.metadata then
      some (mapMessageDocument id message).document else none
  document : ∀ key document, index key = some document →
    ∃ id message, messages.find id = some message ∧ key = id.toString

omit [DecidableEq Instance] [DecidableEq Consumer] [DecidableEq Session] [LawfulJsNumber Number] in
theorem PipelineInvariant.isAccepted_eq (invariant : PipelineInvariant saving runtime state)
    {pair : CommittedPair Unit Instance Number} (member : pair ∈ state.committed) :
    pair.isAccepted = isAbsentOrRecord pair.message.metadata := by
  rw [CommittedPair.isAccepted, invariant.saved.payload member]
  rfl

omit [DecidableEq Consumer] [DecidableEq Session] [LawfulJsNumber Number] in
/-- Once every accepted message is indexed, the index mirrors the messages. -/
theorem RecoveryInvariant.mirrors (invariant : RecoveryInvariant saving config runtime state)
    (indexed : ∀ pair ∈ state.committed, pair.isAccepted = true →
      IsIndexed runtime state.index pair) : Mirrors state.messages state.index where
  message id message stored := by
    obtain ⟨pair, member, rfl, rfl⟩ := invariant.saved.of_message stored
    have isAccepted := invariant.isAccepted_eq member
    split
    · rename_i accepted
      obtain ⟨document, isEntry, isStored⟩ := indexed pair member (isAccepted.trans accepted)
      rw [indexEntry_eq runtime (invariant.saved.payload member), Option.some_inj, Prod.mk.injEq]
        at isEntry
      rw [isStored, ← isEntry.2]
    · rename_i refused
      cases isStored : state.index pair.messageId.toString with
      | none => rfl
      | some document =>
        obtain ⟨other, otherMember, accepted, sameId, _⟩ := invariant.message isStored
        have same : pair = other := by
          refine invariant.saved.eq_of_messageId member otherMember ?_
          rw [invariant.saved.payload_id member, invariant.saved.payload_id otherMember, sameId]
        rw [← same, isAccepted] at accepted
        exact absurd accepted refused
  document key document stored := by
    obtain ⟨pair, member, _, isKey, _⟩ := invariant.message stored
    exact ⟨pair.messageId, pair.message, invariant.saved.message pair member, isKey⟩

/-- One accepted message after the other gets indexed, and what is indexed stays so. -/
theorem RecoveryInvariant.recovers_all [Infinite Instance] [Infinite Session] [Nonempty Consumer]
    (invariant : RecoveryInvariant saving config runtime state) (batch : 0 < config.batchSize) :
    ∃ final, Recovers saving config runtime state final ∧ Kept saving config runtime state final ∧
      Mirrors final.messages final.index := by
  obtain ⟨final, recovers, indexed⟩ : ∃ final, Recovers saving config runtime state final ∧
      ∀ pair ∈ state.committed.filter (·.isAccepted), IsIndexed runtime final.index pair := by
    refine Transition.ReachesAlong.all (fun _ _ _ holds moved => holds.step moved) ?_ ?_ invariant
    · rintro pair state action next holds ⟨document, isEntry, stored⟩ moved
      exact ⟨document, isEntry, holds.toReplicaInvariant.index_step moved stored⟩
    · intro pair member between holds reaches
      obtain ⟨isMember, accepted⟩ := List.mem_filter.mp member
      exact holds.recovers batch ((invariant.kept reaches).committed ▸ isMember) accepted
  have kept := invariant.kept recovers
  refine ⟨final, recovers, kept, kept.invariant.mirrors fun pair member accepted => ?_⟩
  exact indexed pair (List.mem_filter.mpr ⟨kept.committed ▸ member, accepted⟩)

/-- From every state that the pipeline reaches, it can go on, without a new message, to a state in
which the index mirrors the messages. -/
theorem messages_recoverable [Infinite Instance] [Infinite Session] [Nonempty Consumer]
    (batch : 0 < config.batchSize)
    {actions : List (PipelineAction Instance Consumer Session Number)}
    (reached : Transition.run (pipelineStep saving config runtime) .initial actions = some state) :
    ∃ repairs final,
      Transition.run (pipelineStep saving config runtime) state repairs = some final ∧
      Transition.Along (pipelineStep saving config runtime) IsRepair state repairs ∧
      final.messages = state.messages ∧ Mirrors final.messages final.index := by
  have invariant : RecoveryInvariant saving config runtime state :=
    Transition.run_invariant (fun _ _ _ holds moved => holds.step moved) .initial reached
  obtain ⟨final, ⟨repairs, finished, along⟩, kept, mirrors⟩ := invariant.recovers_all batch
  exact ⟨repairs, final, finished, along, kept.messages, mirrors⟩

end Steps

/-- A message whose publisher crashes after a send that the broker did not acknowledge. -/
def strandedMessage : List (PipelineAction Nat Bool Nat Nat) :=
  [.commit smsCommand exampleDate ⟨1, 2, jsString "event-1"⟩,
    .publisher ⟨exampleDate.ms, .startRun 0⟩ 0, .publisher ⟨exampleDate.ms, .claim 0⟩ 0,
    .publisher ⟨exampleDate.ms, .claim 0⟩ 0,
    .publisher ⟨exampleDate.ms, .send 0 (.rejected false (.error (jsString "timeout")))⟩ 0,
    .publisher ⟨exampleDate.ms, .crash 0⟩ 0]

theorem messages_recoverable_stranded :
    ∃ state, Transition.run (pipelineStep .plain .singleAttempt isoRuntime) .initial
        strandedMessage = some state ∧
      state.topics.main.read 0 0 = none ∧ (state.messages.find 1).isSome = true ∧
      ∃ repairs final, Transition.run (pipelineStep .plain .singleAttempt isoRuntime) state
          repairs = some final ∧
        Transition.Along (pipelineStep .plain .singleAttempt isoRuntime) IsRepair state repairs ∧
        final.messages = state.messages ∧ Mirrors final.messages final.index := by
  have runs : (Transition.run (pipelineStep .plain .singleAttempt isoRuntime) .initial
      strandedMessage).any (fun state => decide (state.topics.main.read 0 0 = none) &&
        (state.messages.find 1).isSome) = true := by
    decide +kernel
  obtain ⟨state, reached, holds⟩ := (Option.any_eq_true _ _).mp runs
  rw [Bool.and_eq_true, decide_eq_true_eq] at holds
  exact ⟨state, reached, holds.1, holds.2, messages_recoverable (by decide) reached⟩

end MessageManagement
