/-
This file proves that the pipeline loses no committed message: its row waits in
the outbox, or a record of its event lies ahead of the group that reads the topic
it is on, or the search index holds its document.

The argument is one of custody. A message is carried by the two topics and the
index: by a record that nobody has taken care of, or by its document. Every step
hands the carried messages on, and a row is marked only for an event whose record
was acknowledged. A consumer group passes only what is taken care of, so what
carries a message lies ahead of it.
-/

import MessageManagement.DlqRedrive

namespace MessageManagement

variable {Instance Consumer Session Number : Type} [JsNumber Number]
  {saving : Saving Number}

/-! ### Where a message is -/

/-- The record announces the message of a committed pair. -/
def Carries (pair : CommittedPair Unit Instance Number) (record : KafkaRecord) : Prop :=
  record.value = some (publishJsonValue pair.row.payload)

omit [JsNumber Number] in
/-- The row of a committed message is not published. -/
def IsUnpublished (outbox : OutboxCollection Instance (MessageCreatedEvent Number))
    (pair : CommittedPair Unit Instance Number) : Prop :=
  ∃ row, outbox.find pair.rowId = some row ∧ row.status ≠ .published

/-- The search index holds the document of a committed message. -/
def IsIndexed (runtime : JsRuntime) (index : SearchIndex Number)
    (pair : CommittedPair Unit Instance Number) : Prop :=
  ∃ document, indexEntry runtime pair.row.payload = some (pair.messageId.toString, document) ∧
    index pair.messageId.toString = some document

/-- Nobody has taken care of a record that announces the message, or it is indexed. -/
def Carried (runtime : JsRuntime) (topics : MessageTopics) (index : SearchIndex Number)
    (pair : CommittedPair Unit Instance Number) : Prop :=
  topics.main.Unsettled (Carries pair) ∨ topics.dlq.Unsettled (Carries pair) ∨
    IsIndexed runtime index pair

/-- Where the pipeline keeps a committed message. -/
def PipelineState.Keeps (runtime : JsRuntime)
    (state : PipelineState Instance Consumer Session Number)
    (pair : CommittedPair Unit Instance Number) : Prop :=
  IsUnpublished state.publishers.outbox pair ∨ state.topics.main.Unpassed (Carries pair) ∨
    state.topics.dlq.Unpassed (Carries pair) ∨ IsIndexed runtime state.index pair

/-- Every record announces a committed message, and no group passed one that is not taken care
of. -/
structure MessageTopics.Sound (committed : List (CommittedPair Unit Instance Number))
    (topics : MessageTopics) : Prop where
  main : ∀ partition offset record, topics.main.read partition offset = some record →
    ∃ pair ∈ committed, Carries pair record
  dlq : ∀ partition offset record, topics.dlq.read partition offset = some record →
    ∃ pair ∈ committed, Carries pair record
  mainPasses : topics.main.PassesSettled
  dlqPasses : topics.dlq.PassesSettled

theorem MessageTopics.Sound.empty : MessageTopics.Sound
    ([] : List (CommittedPair Unit Instance Number)) { main := .empty, dlq := .empty } where
  main _ _ _ found := nomatch found
  dlq _ _ _ found := nomatch found
  mainPasses := .empty
  dlqPasses := .empty

/-! ### Handing messages on -/

/-- What topics and index become keeps every message that they carried. -/
structure Handover (runtime : JsRuntime) (committed : List (CommittedPair Unit Instance Number))
    (topics : MessageTopics) (index : SearchIndex Number) (later : MessageTopics)
    (laterIndex : SearchIndex Number) : Prop where
  main : topics.main.Grows later.main
  dlq : topics.dlq.Grows later.dlq
  sound : topics.Sound committed → later.Sound committed
  carried : ∀ pair ∈ committed, Carried runtime topics index pair →
    Carried runtime later laterIndex pair

section Handover

variable {runtime : JsRuntime} {committed : List (CommittedPair Unit Instance Number)}
  {topics later last : MessageTopics} {index laterIndex lastIndex : SearchIndex Number}

theorem Handover.refl : Handover runtime committed topics index topics index where
  main := .refl _
  dlq := .refl _
  sound sound := sound
  carried _ _ carried := carried

theorem Handover.trans (first : Handover runtime committed topics index later laterIndex)
    (second : Handover runtime committed later laterIndex last lastIndex) :
    Handover runtime committed topics index last lastIndex where
  main := first.main.trans second.main
  dlq := first.dlq.trans second.dlq
  sound sound := second.sound (first.sound sound)
  carried pair member carried := second.carried pair member (first.carried pair member carried)

theorem Handover.appendMain {record : KafkaRecord}
    (announces : ∃ pair ∈ committed, Carries pair record) (partition : Nat) :
    Handover runtime committed topics index
      { topics with main := topics.main.append partition record } index where
  main := Topic.grows_append _ _ _
  dlq := .refl _
  sound sound :=
    { sound with
      main := Topic.forall_read_append sound.main announces
      mainPasses := sound.mainPasses.append partition record }
  carried _ _ carried := carried.imp_left fun unsettled => unsettled.append partition record

theorem Handover.appendDlq {record : KafkaRecord}
    (announces : ∃ pair ∈ committed, Carries pair record) (partition : Nat) :
    Handover runtime committed topics index
      { topics with dlq := topics.dlq.append partition record } index where
  main := .refl _
  dlq := Topic.grows_append _ _ _
  sound sound :=
    { sound with
      dlq := Topic.forall_read_append sound.dlq announces
      dlqPasses := sound.dlqPasses.append partition record }
  carried _ _ carried :=
    carried.imp_right fun rest => rest.imp_left fun unsettled => unsettled.append partition record

/-- A send hands on whatever it does. -/
theorem Handover.send {record : KafkaRecord}
    (announces : ∃ pair ∈ committed, Carries pair record) (topic : JsString) (partition : Nat)
    (outcome : SendOutcome) :
    Handover runtime committed topics index (topics.send topic partition record outcome) index := by
  unfold MessageTopics.send
  split
  · split
    · exact .appendMain announces partition
    · split
      · exact .appendDlq announces partition
      · exact .refl
  · exact .refl

/-- A record of the main topic is taken care of once its message is in the dead-letter topic or
the index. -/
theorem Handover.settleMain {partition offset : Nat} {record : KafkaRecord}
    (found : topics.main.read partition offset = some record)
    (taken : ∀ pair ∈ committed, Carries pair record →
      topics.dlq.Unsettled (Carries pair) ∨ IsIndexed runtime index pair) :
    Handover runtime committed topics index
      { topics with main := topics.main.settle partition offset } index where
  main := Topic.grows_settle _ _ _
  dlq := .refl _
  sound sound :=
    { sound with
      main := sound.main
      mainPasses := sound.mainPasses.settle partition offset }
  carried pair member carried := by
    rcases carried with unsettled | elsewhere
    · rcases unsettled.settle found with kept | carries
      · exact Or.inl kept
      · exact Or.inr (taken pair member carries)
    · exact Or.inr elsewhere

/-- A record of the dead-letter topic is taken care of once its message is in the main topic. -/
theorem Handover.settleDlq {partition offset : Nat} {record : KafkaRecord}
    (found : topics.dlq.read partition offset = some record)
    (taken : ∀ pair ∈ committed, Carries pair record → topics.main.Unsettled (Carries pair)) :
    Handover runtime committed topics index
      { topics with dlq := topics.dlq.settle partition offset } index where
  main := .refl _
  dlq := Topic.grows_settle _ _ _
  sound sound :=
    { sound with
      dlq := sound.dlq
      dlqPasses := sound.dlqPasses.settle partition offset }
  carried pair member carried := by
    rcases carried with unsettled | unsettled | indexed
    · exact Or.inl unsettled
    · rcases unsettled.settle found with kept | carries
      · exact Or.inr (Or.inl kept)
      · exact Or.inl (taken pair member carries)
    · exact Or.inr (Or.inr indexed)

theorem Handover.passMain {partition offset : Nat}
    (settled : topics.main.SettledBelow partition offset) :
    Handover runtime committed topics index
      { topics with main := topics.main.pass partition offset } index where
  main := Topic.grows_pass _ _ _
  dlq := .refl _
  sound sound := { sound with main := sound.main, mainPasses := sound.mainPasses.pass settled }
  carried _ _ carried := carried

theorem Handover.passDlq {partition offset : Nat}
    (settled : topics.dlq.SettledBelow partition offset) :
    Handover runtime committed topics index
      { topics with dlq := topics.dlq.pass partition offset } index where
  main := .refl _
  dlq := Topic.grows_pass _ _ _
  sound sound := { sound with dlq := sound.dlq, dlqPasses := sound.dlqPasses.pass settled }
  carried _ _ carried := carried

theorem Handover.reindexed
    (kept : ∀ pair ∈ committed, IsIndexed runtime index pair → IsIndexed runtime laterIndex pair) :
    Handover runtime committed topics index topics laterIndex where
  main := .refl _
  dlq := .refl _
  sound sound := sound
  carried pair member carried := carried.imp_right fun rest => rest.imp_right (kept pair member)

theorem unsettled_send_dlq {record : KafkaRecord} {pair : CommittedPair Unit Instance Number}
    (carries : Carries pair record) (partition : Nat) {outcome : SendOutcome}
    (acknowledged : outcome.isAcknowledged = true) :
    (topics.send MESSAGE_CREATED_DLQ_TOPIC partition record outcome).dlq.Unsettled
      (Carries pair) := by
  have other : MESSAGE_CREATED_DLQ_TOPIC ≠ MESSAGE_CREATED_TOPIC := by decide
  cases outcome with
  | acknowledged =>
    rw [MessageTopics.send, SendOutcome.appends, if_pos rfl, if_neg other, if_pos rfl]
    exact Topic.unsettled_append carries partition
  | rejected appended error => exact nomatch acknowledged

end Handover

/-! ### A step of a redrive -/

theorem RedriveMove.handover {runtime : JsRuntime}
    {committed : List (CommittedPair Unit Instance Number)} {topics later : MessageTopics}
    {index : SearchIndex Number} (move : RedriveMove topics later)
    (announced : topics.Sound committed) :
    Handover runtime committed topics index later index := by
  cases move with
  | kept => exact .refl
  | sent partition offset record mainPartition outcome found =>
    exact .send (announced.dlq partition offset record found) _ _ _
  | republished partition offset record mainPartition outcome found acknowledged =>
    have sent : Handover runtime committed topics index
        (topics.send MESSAGE_CREATED_TOPIC mainPartition record outcome) index :=
      .send (announced.dlq partition offset record found) _ _ _
    exact sent.trans (.settleDlq (sent.dlq.read _ _ _ found) fun pair _ carries =>
      unsettled_send_main carries topics mainPartition acknowledged)
  | committed partition offset settled => exact .passDlq settled

/-! ### Handlers -/

/-- A handler's record is where it was read, what it indexes is the document of the record's event,
and the record it resolved is taken care of. -/
structure Handling.Sound [DecidableEq Number] (runtime : JsRuntime) (main : Topic KafkaRecord)
    (handling : Handling Number) : Prop where
  read : main.read handling.partition handling.offset = some handling.record
  document : ∀ document attempt, handling.phase = .indexing document attempt →
    ∃ event, parseMessageCreatedEvent runtime handling.record.value = .ok (.messageCreated event) ∧
      document = projectMessageCreatedEvent runtime event
  settled : handling.phase.isResolved = true →
    main.settled handling.partition handling.offset = true

theorem Handling.Sound.grows [DecidableEq Number] {runtime : JsRuntime}
    {main later : Topic KafkaRecord} {handling : Handling Number}
    (sound : handling.Sound runtime main) (grows : main.Grows later) :
    handling.Sound runtime later where
  read := grows.read _ _ _ sound.read
  document := sound.document
  settled resolved := grows.settled _ _ (sound.settled resolved)

theorem startHandling_indexing [DecidableEq Number] {runtime : JsRuntime} {value : Option Bytes}
    {document : SearchMessageDocument Number} {attempt : Nat}
    (starts : startHandling runtime value = .indexing document attempt) :
    ∃ event, parseMessageCreatedEvent runtime value = .ok (.messageCreated event) ∧
      document = projectMessageCreatedEvent runtime event := by
  unfold startHandling at starts
  split at starts
  · exact nomatch starts
  · exact nomatch starts
  · rename_i event parsed
    rw [HandlerPhase.indexing.injEq] at starts
    exact ⟨event, parsed, starts.1.symm⟩

omit [JsNumber Number] in
theorem of_isResolved_afterIndexMessage {document : SearchMessageDocument Number} {attempt : Nat}
    {error : Option IndexError}
    (resolved : (afterIndexMessage document attempt error).isResolved = true) : error = none := by
  unfold afterIndexMessage at resolved
  cases error with
  | none => rfl
  | some error =>
    dsimp only at resolved
    split at resolved
    · exact nomatch resolved
    · exact nomatch resolved

section Parsed

variable [LawfulJsNumber Number] [DecidableEq Number] {runtime : JsRuntime}
  {pair : CommittedPair Unit Instance Number} {record : KafkaRecord}

/-- A record that announces a committed message is not skipped. -/
theorem startHandling_carries (current : IsCurrentEvent runtime pair.row.payload)
    (carries : Carries pair record) :
    (startHandling runtime record.value : HandlerPhase Number).isResolved = false := by
  rw [startHandling, carries, parse_publishJsonValue current]
  by_cases accepted : isAbsentOrRecord pair.row.payload.payload.metadata = true
  · rw [if_pos accepted]
    rfl
  · rw [if_neg accepted]
    rfl

/-- The event of such a record is that of the message. -/
theorem eq_of_parse_carries (current : IsCurrentEvent runtime pair.row.payload)
    (carries : Carries pair record) {event : MessageCreatedEvent Number}
    (parsed : parseMessageCreatedEvent runtime record.value = .ok (.messageCreated event)) :
    event = pair.row.payload := by
  rw [carries] at parsed
  exact eq_of_parse_publishJsonValue current parsed

end Parsed

/-! ### Two ids, one pair -/

theorem SavedPairs.eq_of_rowId {store : MessageStore Unit Instance Number}
    (saved : SavedPairs saving store) {first second : CommittedPair Unit Instance Number}
    (member : first ∈ store.committed) (otherMember : second ∈ store.committed)
    (same : first.rowId = second.rowId) : first = second := by
  have distinct := store.outbox.distinct
  rw [saved.rowKeys] at distinct
  exact List.inj_on_of_nodup_map distinct member otherMember same

theorem SavedPairs.topic {store : MessageStore Unit Instance Number}
    (saved : SavedPairs saving store)
    {pair : CommittedPair Unit Instance Number} (member : pair ∈ store.committed) :
    pair.row.topic = MESSAGE_CREATED_TOPIC := by
  obtain ⟨execution, inserts, same⟩ := saved.built pair member
  rw [same]
  rfl

/-! ### What an attempt to index leaves indexed -/

section Index

variable {runtime : JsRuntime} {store : MessageStore Unit Instance Number}
  {pair own : CommittedPair Unit Instance Number}

omit [JsNumber Number] in
theorem indexEntry_key {event : MessageCreatedEvent Number}
    {entry : JsString × EsMessageDocument Number}
    (isEntry : indexEntry runtime event = some entry) :
    entry.1 = event.payload.id := by
  obtain ⟨body, _, same⟩ := Option.map_eq_some_iff.mp isEntry
  rw [← same]

theorem SavedPairs.payload_id (saved : SavedPairs saving store) (member : pair ∈ store.committed) :
    pair.row.payload.payload.id = pair.messageId.toString := by
  rw [saved.payload member]
  rfl

/-- Writing the document of one committed message keeps those of all. -/
theorem IsIndexed.write (saved : SavedPairs saving store) (member : pair ∈ store.committed)
    (ownMember : own ∈ store.committed) {entry : JsString × EsMessageDocument Number}
    (isEntry : indexEntry runtime own.row.payload = some entry) {index : SearchIndex Number}
    (indexed : IsIndexed runtime index pair) :
    IsIndexed runtime (Overwrite.write entry index) pair := by
  obtain ⟨document, isDocument, stored⟩ := indexed
  refine ⟨document, isDocument, ?_⟩
  rw [Overwrite.write]
  by_cases same : pair.messageId.toString = entry.1
  · have samePair : own = pair := by
      refine saved.eq_of_messageId ownMember member ?_
      rw [← indexEntry_key isEntry, ← same, saved.payload_id member]
    rw [samePair, isDocument, Option.some_inj] at isEntry
    rw [← isEntry, Function.update_self]
  · rw [Function.update_of_ne same]
    exact stored

/-- An attempt to index the event of a committed message keeps what is indexed, and succeeds only
by indexing the message. -/
theorem isIndexed_indexMessage (runtime : JsRuntime) (saved : SavedPairs saving store)
    (ownMember : own ∈ store.committed)
    (result : IndexResult) (index : SearchIndex Number) :
    (∀ pair ∈ store.committed, IsIndexed runtime index pair → IsIndexed runtime
      (indexMessage (projectMessageCreatedEvent runtime own.row.payload) result index).1 pair) ∧
    ((indexMessage (projectMessageCreatedEvent runtime own.row.payload) result index).2 = none →
      IsIndexed runtime
        (indexMessage (projectMessageCreatedEvent runtime own.row.payload) result index).1
        own) := by
  rcases indexMessage_eq runtime own.row.payload result index with
    ⟨same, threw⟩ | ⟨entry, isEntry, wrote⟩
  · rw [same]
    refine ⟨fun _ _ indexed => indexed, fun succeeded => ?_⟩
    rw [succeeded] at threw
    exact nomatch threw
  · rw [wrote]
    refine ⟨fun pair member indexed => indexed.write saved member ownMember isEntry, fun _ => ?_⟩
    have key : entry.1 = own.messageId.toString :=
      (indexEntry_key isEntry).trans (saved.payload_id ownMember)
    refine ⟨entry.2, ?_, ?_⟩
    · rw [isEntry, ← key]
    · rw [Overwrite.write, ← key, Function.update_self]

end Index

/-! ### The invariant -/

section Steps

variable [DecidableEq Instance] [DecidableEq Consumer] [DecidableEq Session] [DecidableEq Number]

/-- What holds in every state: the documents are saved in pairs, snapshots and records announce
committed messages, what handlers and redrives have behind them is taken care of, and every
message whose row is published, or about to be, is carried. -/
structure PipelineInvariant (saving : Saving Number) (runtime : JsRuntime)
    (state : PipelineState Instance Consumer Session Number) : Prop where
  saved : SavedPairs saving state.store
  plain : ∀ pair ∈ state.committed, ∀ metadata,
    pair.row.payload.payload.metadata = some metadata → metadata.Plain
  snapshots : ∀ publisher, ∀ claimed ∈ (state.publishers.phase publisher).held,
    ∃ pair ∈ state.committed, pair.rowId = claimed.event.id ∧
      claimed.event.announced = pair.row.announced
  topics : state.topics.Sound state.committed
  handling : ∀ consumer handling, state.handling consumer = some handling →
    handling.Sound runtime state.topics.main
  handled : ∀ partition offset, state.handled partition offset = true →
    state.topics.main.settled partition offset = true
  sessions : ∀ session run, state.sessions session = some run → run.Sound state.topics.dlq
  marking : ∀ publisher current rest, state.publishers.phase publisher = .marking current rest →
    ∀ pair ∈ state.committed, pair.rowId = current.event.id →
      Carried runtime state.topics state.index pair
  accounted : ∀ pair ∈ state.committed,
    IsUnpublished state.publishers.outbox pair ∨ Carried runtime state.topics state.index pair

variable {runtime : JsRuntime} {state : PipelineState Instance Consumer Session Number}

omit [DecidableEq Instance] [DecidableEq Consumer] [DecidableEq Session] in
theorem PipelineInvariant.initial : PipelineInvariant saving runtime
    (.initial : PipelineState Instance Consumer Session Number) where
  saved := .initial
  plain _ member := absurd member List.not_mem_nil
  snapshots _ _ member := absurd member List.not_mem_nil
  topics := .empty
  handling _ _ stored := nomatch stored
  handled _ _ handled := absurd handled Bool.false_ne_true
  sessions _ _ stored := nomatch stored
  marking _ _ _ _ _ member := absurd member List.not_mem_nil
  accounted _ member := absurd member List.not_mem_nil

omit [DecidableEq Instance] [DecidableEq Consumer] [DecidableEq Session] in
theorem PipelineInvariant.handover (invariant : PipelineInvariant saving runtime state)
    {later : MessageTopics} {laterIndex : SearchIndex Number}
    (handover : Handover runtime state.committed state.topics state.index later laterIndex) :
    PipelineInvariant saving runtime { state with topics := later, index := laterIndex } where
  saved := invariant.saved
  plain := invariant.plain
  snapshots := invariant.snapshots
  topics := handover.sound invariant.topics
  handling consumer handling stored :=
    (invariant.handling consumer handling stored).grows handover.main
  handled partition offset handled :=
    handover.main.settled partition offset (invariant.handled partition offset handled)
  sessions session run stored := (invariant.sessions session run stored).grows handover.dlq
  marking publisher current rest phase pair member same :=
    handover.carried pair member (invariant.marking publisher current rest phase pair member same)
  accounted pair member :=
    (invariant.accounted pair member).imp_right (handover.carried pair member)

omit [DecidableEq Instance] [DecidableEq Session] in
theorem PipelineInvariant.setHandling (invariant : PipelineInvariant saving runtime state)
    (consumer : Consumer) {handling? : Option (Handling Number)}
    (sound : ∀ handling, handling? = some handling → handling.Sound runtime state.topics.main) :
    PipelineInvariant saving runtime
      { state with handling := Function.update state.handling consumer handling? } :=
  { invariant with
    handling := by
      intro other handling stored
      have stored : Function.update state.handling consumer handling? other = some handling :=
        stored
      by_cases same : other = consumer
      · rw [same, Function.update_self] at stored
        exact sound handling stored
      · rw [Function.update_of_ne same] at stored
        exact invariant.handling other handling stored }

omit [DecidableEq Instance] [DecidableEq Session] in
/-- A handler that goes on keeps the invariant if a record is resolved only when its messages are
in the dead-letter topic or the index. -/
theorem PipelineInvariant.handle (invariant : PipelineInvariant saving runtime state)
    (consumer : Consumer) {handling : Handling Number}
    (read : state.topics.main.read handling.partition handling.offset = some handling.record)
    (document : ∀ document attempt, handling.phase = .indexing document attempt →
      ∃ event,
        parseMessageCreatedEvent runtime handling.record.value = .ok (.messageCreated event) ∧
        document = projectMessageCreatedEvent runtime event)
    (taken : handling.phase.isResolved = true → ∀ pair ∈ state.committed,
      Carries pair handling.record →
        state.topics.dlq.Unsettled (Carries pair) ∨ IsIndexed runtime state.index pair) :
    PipelineInvariant saving runtime (state.handle consumer handling) := by
  unfold PipelineState.handle
  by_cases resolved : handling.phase.isResolved = true
  · rw [if_pos resolved]
    refine (invariant.handover (.settleMain read (taken resolved))).setHandling consumer ?_
    intro other same
    rw [← Option.some.inj same]
    exact ⟨read, document, fun _ => Topic.settled_settle read⟩
  · rw [if_neg resolved]
    refine invariant.setHandling consumer ?_
    intro other same
    rw [← Option.some.inj same]
    exact ⟨read, document, fun settled => absurd settled resolved⟩

/-! ### A commit -/

omit [DecidableEq Instance] [DecidableEq Consumer] [DecidableEq Session] [DecidableEq Number] in
theorem MessageTopics.Sound.mono {topics : MessageTopics}
    {committed later : List (CommittedPair Unit Instance Number)} (sound : topics.Sound committed)
    (more : committed ⊆ later) : topics.Sound later :=
  { sound with
    main := by
      intro partition offset record found
      obtain ⟨pair, member, carries⟩ := sound.main partition offset record found
      exact ⟨pair, more member, carries⟩
    dlq := by
      intro partition offset record found
      obtain ⟨pair, member, carries⟩ := sound.dlq partition offset record found
      exact ⟨pair, more member, carries⟩ }

omit [DecidableEq Instance] [DecidableEq Consumer] [DecidableEq Session] in
/-- The row of a new pair is pending, and nobody holds a snapshot of it. -/
theorem PipelineInvariant.committed (invariant : PipelineInvariant saving runtime state)
    {command : JsonCommand Number} {now : JsDate} {inserts : Inserts}
    {store : MessageStore Unit Instance Number}
    (wrote :
      state.store.commit saving () ⟨command.toCreateMessageCommand, now, .callback⟩ inserts =
      some store) :
    PipelineInvariant saving runtime
      { state with
        messages := store.messages
        committed := store.committed
        publishers := { state.publishers with outbox := store.outbox } } := by
  obtain ⟨freshMessage, freshRow, _, committed, _, _, _, findRow⟩ := commit_eq_some wrote
  have saved := invariant.saved.commit wrote
  have each : ∀ pair ∈ store.committed, pair ∈ state.committed ∨
      pair =
        Execution.pair saving () ⟨command.toCreateMessageCommand, now, .callback⟩ inserts := by
    intro pair member
    rw [committed, List.mem_append, List.mem_singleton] at member
    exact member
  have more : state.committed ⊆ store.committed := by
    rw [committed]
    exact List.subset_append_left _ _
  refine ⟨⟨saved.messageKeys, saved.rowKeys, saved.built, saved.message, saved.announced⟩, ?_, ?_,
    invariant.topics.mono more, invariant.handling, invariant.handled, invariant.sessions, ?_, ?_⟩
  · intro pair member
    rcases each pair member with earlier | rfl
    · exact invariant.plain pair earlier
    · exact plain_savedValue command.plain
  · intro publisher claimed held
    obtain ⟨pair, member, same⟩ := invariant.snapshots publisher claimed held
    exact ⟨pair, more member, same⟩
  · intro publisher current rest phase pair member same
    rcases each pair member with earlier | rfl
    · exact invariant.marking publisher current rest phase pair earlier same
    · have held : current ∈ (state.publishers.phase publisher).held := by
        rw [show state.publishers.phase publisher = .marking current rest from phase]
        exact List.mem_cons_self
      obtain ⟨other, otherMember, otherSame, _⟩ := invariant.snapshots publisher current held
      exact absurd (otherSame.trans same.symm)
        (invariant.saved.fresh freshMessage freshRow otherMember).2
  · intro pair member
    rcases each pair member with earlier | rfl
    · refine (invariant.accounted pair earlier).imp_left fun unpublished => ?_
      obtain ⟨row, stored, live⟩ := unpublished
      refine ⟨row, ?_, live⟩
      rw [findRow, if_neg (invariant.saved.fresh freshMessage freshRow earlier).2]
      exact stored
    · refine Or.inl ⟨_, (findRow _).trans (if_pos rfl), ?_⟩
      exact nofun

/-! ### A step of a publisher -/

omit [DecidableEq Instance] [DecidableEq Consumer] [DecidableEq Session] in
/-- What the publishers send announces committed messages. -/
theorem PipelineInvariant.sendOf (invariant : PipelineInvariant saving runtime state)
    (label : PublisherLabel Instance (MessageCreatedEvent Number)) (partition : Nat) :
    Handover runtime state.committed state.topics state.index (state.sendOf label partition)
      state.index := by
  unfold PipelineState.sendOf
  split
  · split
    · rename_i publisher outcome action _ current rest phase
      have held : current ∈ (state.publishers.phase publisher).held := by
        rw [phase]
        exact List.mem_cons_self
      obtain ⟨pair, member, _, announced⟩ := invariant.snapshots publisher current held
      refine .send ⟨pair, member, ?_⟩ _ _ _
      rw [Carries, publishedRecord]
      rw [show current.event.payload = pair.row.payload from
        congrArg AnnouncedEvent.payload announced]
    · exact .refl
  · exact .refl

omit [DecidableEq Consumer] [DecidableEq Session] in
/-- Rows stay in pairs, and one that gets published is carried. -/
theorem PipelineInvariant.outbox (invariant : PipelineInvariant saving runtime state)
    {config : PublisherConfig} {time : Int}
    {action : PublisherAction Instance (MessageCreatedEvent Number)}
    {publishers : PublisherState Instance (MessageCreatedEvent Number)}
    (created : ∀ id input, action ≠ .create id input)
    (move : PublisherMove config state.publishers time action publishers) :
    SavedPairs saving { state.store with outbox := publishers.outbox } ∧
      ∀ pair ∈ state.committed, IsUnpublished state.publishers.outbox pair →
        IsUnpublished publishers.outbox pair ∨ Carried runtime state.topics state.index pair := by
  rcases move.outbox with same | ⟨write, performed, issues⟩
  · rw [same]
    exact ⟨invariant.saved, fun _ _ unpublished => Or.inl unpublished⟩
  · have nothing : write.inserted = [] := by
      cases issues with
      | create id input => exact absurd rfl (created id input)
      | _ => rfl
    refine ⟨invariant.saved.perform nothing performed, ?_⟩
    rintro pair member ⟨row, stored, live⟩
    have step := perform_row performed pair.rowId
    rw [stored] at step
    rcases step.unpublished live with ⟨after, kept, live⟩ | ⟨lockedBy, event, time, isMark, isRow⟩
    · exact Or.inl ⟨after, kept, live⟩
    · subst isMark
      cases issues with
      | markPublished _ current rest _ marks =>
        exact Or.inr (invariant.marking lockedBy current rest marks pair member isRow.symm)

omit [DecidableEq Instance] [DecidableEq Consumer] [DecidableEq Session] in
/-- The pair whose row a held snapshot is of. -/
theorem PipelineInvariant.announced (invariant : PipelineInvariant saving runtime state)
    {publisher : Instance} {claimed : ClaimedEvent Instance (MessageCreatedEvent Number)}
    (held : claimed ∈ (state.publishers.phase publisher).held)
    {pair : CommittedPair Unit Instance Number} (member : pair ∈ state.committed)
    (same : pair.rowId = claimed.event.id) : claimed.event.announced = pair.row.announced := by
  obtain ⟨other, otherMember, otherSame, announced⟩ := invariant.snapshots publisher claimed held
  rw [announced, invariant.saved.eq_of_rowId otherMember member (otherSame.trans same.symm)]

omit [DecidableEq Consumer] [DecidableEq Session] in
theorem PipelineInvariant.published (invariant : PipelineInvariant saving runtime state)
    {config : PublisherConfig} {label : PublisherLabel Instance (MessageCreatedEvent Number)}
    {publishers : PublisherState Instance (MessageCreatedEvent Number)}
    (created : ∀ id input, label.action ≠ .create id input)
    (moved : publisherStep config state.publishers label = some publishers) (partition : Nat) :
    PipelineInvariant saving runtime
      { state with publishers, topics := state.sendOf label partition } := by
  have move := publisherStep_move moved
  obtain ⟨saved, accounted⟩ := invariant.outbox created move
  have sent := invariant.sendOf label partition
  have handed := invariant.handover sent
  refine { handed with
    saved := ⟨saved.messageKeys, saved.rowKeys, saved.built, saved.message, saved.announced⟩
    snapshots := ?_, marking := ?_, accounted := ?_ }
  · intro publisher claimed held
    rcases move.held held with earlier | ⟨row, stored, announced⟩
    · exact invariant.snapshots publisher claimed earlier
    · have known := Collection.mem_keys_of_find stored
      rw [show state.publishers.outbox.keys = _ from invariant.saved.rowKeys] at known
      obtain ⟨pair, member, same⟩ := List.mem_map.mp known
      refine ⟨pair, member, same, announced.trans ?_⟩
      exact invariant.saved.announced pair member row (same ▸ stored)
  · intro publisher current rest phase pair member same
    rcases marking_step moved phase with earlier | ⟨publishing, acknowledged⟩
    · exact handed.marking publisher current rest earlier pair member same
    · -- The record that was acknowledged announces the message.
      have held : current ∈ (state.publishers.phase publisher).held := by
        rw [publishing]
        exact List.mem_cons_self
      have announced := invariant.announced held member same
      have topic : current.event.topic = MESSAGE_CREATED_TOPIC :=
        (congrArg AnnouncedEvent.topic announced).trans (invariant.saved.topic member)
      have carries : Carries pair (publishedRecord current.event) := by
        rw [Carries, publishedRecord]
        rw [show current.event.payload = pair.row.payload from
          congrArg AnnouncedEvent.payload announced]
      refine Or.inl ?_
      show (state.sendOf label partition).main.Unsettled _
      rw [PipelineState.sendOf, acknowledged]
      dsimp only
      rw [publishing]
      dsimp only
      rw [topic]
      exact unsettled_send_main carries state.topics partition rfl
  · intro pair member
    rcases invariant.accounted pair member with unpublished | carried
    · exact (accounted pair member unpublished).imp_right (sent.carried pair member)
    · exact Or.inr (sent.carried pair member carried)

/-! ### A step of a handler -/

omit [DecidableEq Instance] [DecidableEq Consumer] [DecidableEq Session] in
theorem PipelineInvariant.isCurrentEvent (invariant : PipelineInvariant saving runtime state)
    {pair : CommittedPair Unit Instance Number} (member : pair ∈ state.committed) :
    IsCurrentEvent runtime pair.row.payload :=
  invariant.saved.isCurrentEvent member runtime (invariant.plain pair member)

variable [LawfulJsNumber Number]

omit [DecidableEq Instance] [DecidableEq Session] in
theorem PipelineInvariant.delivered (invariant : PipelineInvariant saving runtime state)
    (consumer : Consumer) {partition offset : Nat} {record : KafkaRecord}
    (found : state.topics.main.read partition offset = some record) :
    PipelineInvariant saving runtime
      (state.handle consumer ⟨partition, offset, record, startHandling runtime record.value⟩) := by
  refine invariant.handle consumer found (fun _ _ starts => startHandling_indexing starts) ?_
  intro resolved pair member carries
  have skipped := startHandling_carries (invariant.isCurrentEvent member) carries
  exact absurd (resolved.symm.trans skipped) Bool.noConfusion

omit [DecidableEq Instance] [DecidableEq Session] in
/-- An attempt to index: the record it resolves is that of the message it indexed. -/
theorem PipelineInvariant.attempted (invariant : PipelineInvariant saving runtime state)
    (consumer : Consumer) {partition offset attempt : Nat} {record : KafkaRecord}
    {document : SearchMessageDocument Number}
    (was : state.handling consumer = some ⟨partition, offset, record, .indexing document attempt⟩)
    (result : IndexResult) :
    PipelineInvariant saving runtime
      (PipelineState.handle consumer
        ⟨partition, offset, record,
          afterIndexMessage document attempt (indexMessage document result state.index).2⟩
        { state with index := (indexMessage document result state.index).1 }) := by
  have sound := invariant.handling consumer _ was
  obtain ⟨event, parsed, isDocument⟩ := sound.document document attempt rfl
  obtain ⟨own, ownMember, ownCarries⟩ := invariant.topics.main _ _ _ sound.read
  have isEvent := eq_of_parse_carries (invariant.isCurrentEvent ownMember) ownCarries parsed
  subst isEvent isDocument
  obtain ⟨kept, succeeded⟩ := isIndexed_indexMessage runtime invariant.saved ownMember result
    state.index
  refine (invariant.handover (.reindexed kept)).handle consumer sound.read ?_ ?_
  · intro next again phase
    refine ⟨_, parsed, ?_⟩
    have handles := handlesEvent_afterIndexMessage runtime own.row.payload attempt
      (indexMessage (projectMessageCreatedEvent runtime own.row.payload) result state.index).2
    rw [show afterIndexMessage _ attempt _ = .indexing next again from phase] at handles
    exact handles
  · intro resolved pair member carries
    refine Or.inr ?_
    have samePair : own = pair := by
      refine invariant.saved.eq_of_messageId ownMember member ?_
      rw [eq_of_parse_carries (invariant.isCurrentEvent member) carries parsed]
    rw [← samePair]
    exact succeeded (of_isResolved_afterIndexMessage resolved)

omit [DecidableEq Instance] [DecidableEq Session] [LawfulJsNumber Number] in
/-- The send of `publishToDlq`: the record it resolves is in the dead-letter topic. -/
theorem PipelineInvariant.deadLettered (invariant : PipelineInvariant saving runtime state)
    (consumer : Consumer) {partition offset : Nat} {record : KafkaRecord}
    (was : state.handling consumer = some ⟨partition, offset, record, .publishingToDlq⟩)
    (outcome : SendOutcome) (dlqPartition : Nat) :
    PipelineInvariant saving runtime
      (PipelineState.handle consumer
        ⟨partition, offset, record, afterPublishToDlq outcome.isAcknowledged⟩
        { state with
          topics := state.topics.send MESSAGE_CREATED_DLQ_TOPIC dlqPartition (dlqRecord record)
            outcome }) := by
  have sound := invariant.handling consumer _ was
  obtain ⟨own, ownMember, ownCarries⟩ := invariant.topics.main _ _ _ sound.read
  have announces : ∃ pair ∈ state.committed, Carries pair (dlqRecord record) :=
    ⟨own, ownMember, ownCarries⟩
  have sent : Handover runtime state.committed state.topics state.index
      (state.topics.send MESSAGE_CREATED_DLQ_TOPIC dlqPartition (dlqRecord record) outcome)
        state.index := .send announces _ _ _
  refine (invariant.handover sent).handle consumer (sent.main.read _ _ _ sound.read) ?_ ?_
  · intro document attempt phase
    rw [afterPublishToDlq] at phase
    split at phase
    · cases phase
    · cases phase
  · intro resolved pair member carries
    have kept : Carries pair (dlqRecord record) := carries
    refine Or.inl (unsettled_send_dlq kept dlqPartition ?_)
    rw [afterPublishToDlq] at resolved
    split at resolved
    · assumption
    · cases resolved

omit [DecidableEq Instance] [DecidableEq Session] [LawfulJsNumber Number] in
/-- The end of a handler: what it resolved was taken care of before. -/
theorem PipelineInvariant.finished (invariant : PipelineInvariant saving runtime state)
    (consumer : Consumer) {partition offset : Nat} {record : KafkaRecord}
    (was : state.handling consumer = some ⟨partition, offset, record, .resolved⟩) :
    PipelineInvariant saving runtime
      { state.release consumer with
        handled := fun other position =>
          state.handled other position || decide (other = partition ∧ position = offset) } := by
  have released : PipelineInvariant saving runtime (state.release consumer) :=
    invariant.setHandling consumer fun _ same => nomatch same
  refine { released with handled := ?_ }
  intro other position handled
  rw [Bool.or_eq_true, decide_eq_true_eq] at handled
  rcases handled with earlier | ⟨rfl, rfl⟩
  · exact invariant.handled other position earlier
  · exact (invariant.handling consumer _ was).settled rfl

/-! ### Every step -/

theorem pipelineStep_invariant {config : PublisherConfig}
    {next : PipelineState Instance Consumer Session Number}
    {action : PipelineAction Instance Consumer Session Number}
    (invariant : PipelineInvariant saving runtime state)
    (moved : pipelineStep saving config runtime state action = some next) :
    PipelineInvariant saving runtime next := by
  cases pipelineStep_transition moved with
  | committed wrote => exact invariant.committed wrote
  | published partition created stepped => exact invariant.published created stepped partition
  | delivered free found => exact invariant.delivered _ found
  | indexed result was => exact invariant.attempted _ was result
  | deadLettered outcome dlqPartition was =>
    exact invariant.deadLettered _ was outcome dlqPartition
  | resolved was => exact invariant.finished _ was
  | rejected => exact invariant.setHandling _ fun _ same => by cases same
  | crashed consumer => exact invariant.setHandling _ fun _ same => by cases same
  | @passed partition offset all =>
    refine invariant.handover (.passMain fun position below => ?_)
    rw [List.all_eq_true] at all
    exact invariant.handled partition position (all position (List.mem_range.mpr below))
  | @redriven session action result stepped =>
    obtain ⟨move, sound⟩ := redriveStep_move invariant.topics.dlqPasses
      (invariant.sessions session) stepped
    have handover :
        Handover runtime state.committed state.topics state.index result.2 state.index :=
      move.handover invariant.topics
    refine { invariant.handover handover with sessions := forall_sessions_update ?_ sound }
    exact fun other run stored => (invariant.sessions other run stored).grows handover.dlq

/-! ### The pipeline keeps every message -/

omit [DecidableEq Instance] [DecidableEq Consumer] [DecidableEq Session] [LawfulJsNumber Number] in
theorem PipelineInvariant.keeps (invariant : PipelineInvariant saving runtime state)
    {pair : CommittedPair Unit Instance Number} (member : pair ∈ state.committed) :
    state.Keeps runtime pair := by
  rcases invariant.accounted pair member with unpublished | main | dlq | indexed
  · exact Or.inl unpublished
  · exact Or.inr (Or.inl (main.unpassed invariant.topics.mainPasses))
  · exact Or.inr (Or.inr (Or.inl (dlq.unpassed invariant.topics.dlqPasses)))
  · exact Or.inr (Or.inr (Or.inr indexed))

/-- In every run of the pipeline, every message committed so far is kept: its row is not published,
or a record with its event lies ahead of the group of the search indexers or of the redrive, or the
search index holds its document. -/
theorem no_message_lost {config : PublisherConfig} {runtime : JsRuntime}
    {actions : List (PipelineAction Instance Consumer Session Number)}
    {state : PipelineState Instance Consumer Session Number}
    (reached : Transition.run (pipelineStep saving config runtime) .initial actions = some state)
    {id : ObjectId} {message : MessageEntity Number}
    (stored : state.messages.find id = some message) :
    ∃ pair ∈ state.committed, pair.messageId = id ∧
      pair.row.payload.payload = toMessageCreatedEventPayload (mapMessageDocument id message) ∧
        state.Keeps runtime pair := by
  have invariant : PipelineInvariant saving runtime state := Transition.run_invariant
    (fun _ _ _ holds moved => pipelineStep_invariant holds moved) .initial reached
  obtain ⟨pair, member, rfl, rfl⟩ := invariant.saved.of_message stored
  exact ⟨pair, member, rfl, invariant.saved.payload member, invariant.keeps member⟩

end Steps

/-! ### A message that takes every way -/

/-- A command with metadata a JSON body can hold. -/
def smsCommand : JsonCommand Nat where
  toCreateMessageCommand :=
    exampleCommand (some (.object [(jsString "channel", .string (jsString "sms"))]))
  plain value same := by
    have isObject : .object [(jsString "channel", .string (jsString "sms"))] = value :=
      Option.some.inj same
    rw [← isObject, Json.Plain]
    exact ⟨List.nodup_singleton _, trivial, trivial⟩

/-- An error that is no reason to try again. -/
def mappingError : IndexError := ⟨true, some (jsString "ResponseError"), some 400⟩

/-- The message is committed and published, fails to be indexed, goes through the dead-letter
topic, and is indexed at last. -/
def redrivenMessage : List (PipelineAction Bool Bool Bool Nat) :=
  [.commit smsCommand exampleDate ⟨1, 2, jsString "event-1"⟩,
    .publisher ⟨exampleDate.ms, .startRun true⟩ 0, .publisher ⟨exampleDate.ms, .claim true⟩ 0,
    .publisher ⟨exampleDate.ms, .claim true⟩ 0,
    .publisher ⟨exampleDate.ms, .send true .acknowledged⟩ 0,
    .publisher ⟨exampleDate.ms, .markPublished true⟩ 0, .deliver true 0 0,
    .indexMessage true (.failed false mappingError), .publishToDlq true .acknowledged 3,
    .finish true, .commitOffset 0 1, .redrive false (.start ⟨false, 10⟩),
    .redrive false (.assign 3), .redrive false (.consume 3),
    .redrive false (.republish 0 .acknowledged), .redrive false (.commitOffsets .acknowledged),
    .deliver false 0 1, .indexMessage false .succeeded, .finish false, .commitOffset 0 2]

theorem no_message_lost_redriven :
    ∃ state, Transition.run (pipelineStep .plain .singleAttempt isoRuntime) .initial
        redrivenMessage = some state ∧
      state.topics.main.passed 0 = 2 ∧
      ∃ pair ∈ state.committed, pair.messageId = 1 ∧ state.Keeps isoRuntime pair := by
  have runs : (Transition.run (pipelineStep .plain .singleAttempt isoRuntime) .initial
      redrivenMessage).any (fun state => (state.messages.find 1).isSome &&
        decide (state.topics.main.passed 0 = 2)) = true := by
    decide +kernel
  obtain ⟨state, reached, holds⟩ := (Option.any_eq_true _ _).mp runs
  rw [Bool.and_eq_true, decide_eq_true_eq] at holds
  obtain ⟨message, stored⟩ := Option.isSome_iff_exists.mp holds.1
  obtain ⟨pair, member, isPair, _, keeps⟩ := no_message_lost reached stored
  exact ⟨state, reached, holds.2, pair, member, isPair, keeps⟩

end MessageManagement
