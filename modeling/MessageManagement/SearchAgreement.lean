/-
This file proves that search and list agree: whatever the pipeline did so far,
every hit of a search is answered as the list of its conversation answers it, and
goes on being found.

The index is a replica that nothing but events of committed messages writes to.
A message has one event, so a document is never overwritten by a different one,
however often and in whatever order the events are delivered.
-/

import MessageManagement.NoMessageLost
import MessageManagement.SearchPages
import MessageManagement.Verbatim

namespace MessageManagement

variable {Instance Consumer Session Number : Type}

/-! ### The document of a message -/

/-- The document of the index for a message. -/
def Message.document (message : Message Number) : EsMessageDocument Number where
  id := message.id
  conversationId := message.conversationId
  senderId := message.senderId
  content := message.content
  timestamp := message.timestamp.toISOString
  metadata := message.metadata

/-- The event of a message asks for its document. -/
theorem indexEntry_eq (runtime : JsRuntime) {event : MessageCreatedEvent Number}
    {message : Message Number} (announces : event.payload = toMessageCreatedEventPayload message) :
    indexEntry runtime event = some (message.id, message.document) := by
  rw [indexEntry, projectMessageDocument, projectMessageCreatedEvent, announces]
  dsimp only [toMessageCreatedEventPayload]
  rw [date_toISOString]
  rfl

/-! ### What is searched and listed -/

/-- Search indexers accept the event of a committed message. -/
def CommittedPair.isAccepted (pair : CommittedPair Unit Instance Number) : Bool :=
  isAbsentOrRecord pair.row.payload.payload.metadata

/-- Every document of the index is the one that the accepted event of a committed message asks
for. -/
def ReplicaOf (runtime : JsRuntime) (committed : List (CommittedPair Unit Instance Number))
    (index : SearchIndex Number) : Prop :=
  ∀ id document, index id = some document → ∃ pair ∈ committed, pair.isAccepted = true ∧
    indexEntry runtime pair.row.payload = some (id, document)

/-- What is assumed of a response: every hit is a document of the index, in the conversation of
the search. Their order, their scores and which of them are hits is left open. -/
def HitsOf (index : SearchIndex Number) (query : SearchMessagesQuery)
    (response : EsSearchResponse Number) : Prop :=
  ∀ hit ∈ response.hits, ∃ id document, hit.source = some document ∧ index id = some document ∧
    document.conversationId = query.conversationId

variable [JsNumber Number] {saving : Saving Number}

/-- Listing the conversation returns a message with this response. -/
def ListReturns (runtime : JsRuntime) (messages : MessageCollection Number)
    (conversationId : JsString) (item : MessageResponse Number) : Prop :=
  IsListedIn runtime messages conversationId fun message => mapMessageResponse message = item

/-- An item of the answer is about the document of the hit, and as a list returns it. -/
def AnswersAsListed (runtime : JsRuntime) (messages : MessageCollection Number)
    (conversationId : JsString) (hit : EsSearchHit Number) (item : SearchMessageResponse Number) :
    Prop :=
  hit.source.map EsMessageDocument.id = some item.message.id ∧
    ListReturns runtime messages conversationId item.message

/-- A hit with the document of a message is answered with the response for the message. -/
theorem mapSearchMessageResponse_document (runtime : JsRuntime) (score : Option Number)
    (message : Message Number) :
    (mapHit runtime ⟨score, some message.document⟩).mapM mapSearchMessageResponse =
      some [⟨mapMessageResponse message, score.getD (JsNumber.ofNat 0)⟩] := by
  rw [mapHit]
  dsimp only [Message.document]
  rw [date_toISOString]
  rfl

/-- If every hit has the document of a message, the search is answered, with the messages in the
order of the hits. -/
theorem mapM_hits (runtime : JsRuntime) {Found : Message Number → Prop}
    {hits : List (EsSearchHit Number)}
    (found : ∀ hit ∈ hits, ∃ message, Found message ∧ hit.source = some message.document) :
    ∃ data, (hits.flatMap (mapHit runtime)).mapM mapSearchMessageResponse = some data ∧
      List.Forall₂ (fun hit item => ∃ message, Found message ∧
        hit.source = some message.document ∧ item.message = mapMessageResponse message) hits
        data := by
  induction hits with
  | nil => exact ⟨[], rfl, .nil⟩
  | cons hit rest inductionHypothesis =>
    obtain ⟨message, isFound, source⟩ := found hit List.mem_cons_self
    obtain ⟨data, answered, agree⟩ := inductionHypothesis fun other member =>
      found other (List.mem_cons_of_mem _ member)
    obtain ⟨score, source'⟩ := hit
    obtain rfl : source' = some message.document := source
    refine ⟨⟨mapMessageResponse message, score.getD (JsNumber.ofNat 0)⟩ :: data, ?_,
      .cons ⟨message, isFound, rfl, rfl⟩ agree⟩
    rw [List.flatMap_cons, List.mapM_append, mapSearchMessageResponse_document, answered]
    rfl

/-! ### The index is a replica -/

section Replica

variable {runtime : JsRuntime} {committed later : List (CommittedPair Unit Instance Number)}
  {index : SearchIndex Number}

omit [JsNumber Number] in
theorem ReplicaOf.mono (replica : ReplicaOf runtime committed index) (more : committed ⊆ later) :
    ReplicaOf runtime later index := by
  intro id document stored
  obtain ⟨pair, member, accepted, isEntry⟩ := replica id document stored
  exact ⟨pair, more member, accepted, isEntry⟩

omit [JsNumber Number] in
theorem ReplicaOf.write (replica : ReplicaOf runtime committed index)
    {own : CommittedPair Unit Instance Number} (member : own ∈ committed)
    (accepted : own.isAccepted = true) {entry : JsString × EsMessageDocument Number}
    (isEntry : indexEntry runtime own.row.payload = some entry) :
    ReplicaOf runtime committed (Overwrite.write entry index) := by
  intro id document stored
  rw [Overwrite.write] at stored
  by_cases same : id = entry.1
  · rw [same, Function.update_self, Option.some_inj] at stored
    exact ⟨own, member, accepted, by rw [isEntry, same, ← stored]⟩
  · rw [Function.update_of_ne same] at stored
    exact replica id document stored

/-- Writing the document of a committed message replaces no other document. -/
theorem ReplicaOf.find_write {store : MessageStore Unit Instance Number}
    (saved : SavedPairs saving store) (replica : ReplicaOf runtime store.committed index)
    {own : CommittedPair Unit Instance Number} (member : own ∈ store.committed)
    {entry : JsString × EsMessageDocument Number}
    (isEntry : indexEntry runtime own.row.payload = some entry)
    {id : JsString} {document : EsMessageDocument Number} (stored : index id = some document) :
    Overwrite.write entry index id = some document := by
  rw [Overwrite.write]
  by_cases same : id = entry.1
  · obtain ⟨pair, pairMember, _, isDocument⟩ := replica id document stored
    have samePair : own = pair := by
      refine saved.eq_of_messageId member pairMember ?_
      rw [← indexEntry_key isEntry, ← indexEntry_key isDocument, same]
    rw [samePair, isDocument, Option.some_inj] at isEntry
    rw [← isEntry, Function.update_self]
  · rw [Function.update_of_ne same]
    exact stored

end Replica

/-! ### Steps -/

section Steps

variable [DecidableEq Instance] [DecidableEq Consumer] [DecidableEq Session] [DecidableEq Number]
  [LawfulJsNumber Number] {config : PublisherConfig} {runtime : JsRuntime}
  {state next : PipelineState Instance Consumer Session Number}
  {action : PipelineAction Instance Consumer Session Number}

/-- All that a step does to the index is to write the document of a committed message. -/
theorem pipelineStep_index (invariant : PipelineInvariant saving runtime state)
    (moved : pipelineStep saving config runtime state action = some next) :
    state.committed ⊆ next.committed ∧
      (next.index = state.index ∨ ∃ own ∈ state.committed, own.isAccepted = true ∧ ∃ entry,
        indexEntry runtime own.row.payload = some entry ∧
          next.index = Overwrite.write entry state.index) := by
  cases pipelineStep_transition moved with
  | @committed _ _ _ store wrote =>
    obtain ⟨_, _, _, committed, _⟩ := commit_eq_some wrote
    refine ⟨?_, Or.inl rfl⟩
    show state.committed ⊆ store.committed
    rw [committed]
    exact List.subset_append_left _ _
  | @indexed consumer _ _ record document attempt result was =>
    refine ⟨fun _ member => member, ?_⟩
    -- the record was read from the main topic, so its event is that of a committed message
    have sound := invariant.handling consumer _ was
    obtain ⟨event, parsed, isDocument⟩ := sound.document document attempt rfl
    obtain ⟨own, ownMember, ownCarries⟩ := invariant.topics.main _ _ _ sound.read
    have isEvent := eq_of_parse_carries (invariant.isCurrentEvent ownMember) ownCarries parsed
    have accepted : own.isAccepted = true := by
      rw [show record.value = some (publishJsonValue own.row.payload) from ownCarries,
        parse_publishJsonValue (invariant.isCurrentEvent ownMember)] at parsed
      by_contra refused
      rw [if_neg (show ¬ isAbsentOrRecord own.row.payload.payload.metadata = true from refused)]
        at parsed
      cases parsed
    subst isEvent isDocument
    rcases indexMessage_eq runtime own.row.payload result state.index with
      ⟨same, _⟩ | ⟨entry, isEntry, wrote⟩
    · exact Or.inl same
    · exact Or.inr ⟨own, ownMember, accepted, entry, isEntry, wrote⟩
  | _ => exact ⟨fun _ member => member, Or.inl rfl⟩

/-- What holds in every state: the index is a replica of the committed messages. -/
structure ReplicaInvariant (saving : Saving Number) (runtime : JsRuntime)
    (state : PipelineState Instance Consumer Session Number) : Prop
    extends PipelineInvariant saving runtime state where
  replica : ReplicaOf runtime state.committed state.index

theorem ReplicaInvariant.step (invariant : ReplicaInvariant saving runtime state)
    (moved : pipelineStep saving config runtime state action = some next) :
    ReplicaInvariant saving runtime next := by
  obtain ⟨more, same | ⟨own, member, accepted, entry, isEntry, wrote⟩⟩ :=
    pipelineStep_index invariant.toPipelineInvariant moved
  · refine ⟨pipelineStep_invariant invariant.toPipelineInvariant moved, ?_⟩
    rw [same]
    exact invariant.replica.mono more
  · refine ⟨pipelineStep_invariant invariant.toPipelineInvariant moved, ?_⟩
    rw [wrote]
    exact (invariant.replica.write member accepted isEntry).mono more

/-- No step takes back a document or changes one. -/
theorem ReplicaInvariant.index_step (invariant : ReplicaInvariant saving runtime state)
    (moved : pipelineStep saving config runtime state action = some next) {id : JsString}
    {document : EsMessageDocument Number} (stored : state.index id = some document) :
    next.index id = some document := by
  obtain ⟨_, same | ⟨own, member, _, entry, isEntry, wrote⟩⟩ :=
    pipelineStep_index invariant.toPipelineInvariant moved
  · rw [same]
    exact stored
  · rw [wrote]
    exact invariant.replica.find_write invariant.saved member isEntry stored

/-! ### Whole runs -/

theorem ReplicaInvariant.run {start final : PipelineState Instance Consumer Session Number}
    {actions : List (PipelineAction Instance Consumer Session Number)}
    (invariant : ReplicaInvariant saving runtime start)
    (reached : Transition.run (pipelineStep saving config runtime) start actions = some final) :
    ReplicaInvariant saving runtime final ∧ start.committed ⊆ final.committed ∧
      ∀ id document, start.index id = some document → final.index id = some document := by
  let Kept (state : PipelineState Instance Consumer Session Number) : Prop :=
    ReplicaInvariant saving runtime state ∧ start.committed ⊆ state.committed ∧
      ∀ id document, start.index id = some document → state.index id = some document
  have step : ∀ state action next, Kept state →
      pipelineStep saving config runtime state action = some next → Kept next := by
    rintro state action next ⟨invariant, more, stays⟩ moved
    refine ⟨invariant.step moved, ?_, fun id document stored => ?_⟩
    · exact List.Subset.trans more (pipelineStep_index invariant.toPipelineInvariant moved).1
    · exact invariant.index_step moved (stays id document stored)
  exact Transition.run_invariant step
    ⟨invariant, List.Subset.refl _, fun _ _ stored => stored⟩ reached

omit [DecidableEq Instance] [DecidableEq Consumer] [DecidableEq Session] [LawfulJsNumber Number] in
/-- A document of the index is that of a stored message. -/
theorem ReplicaInvariant.message (invariant : ReplicaInvariant saving runtime state)
    {id : JsString}
    {document : EsMessageDocument Number} (stored : state.index id = some document) :
    ∃ pair ∈ state.committed, pair.isAccepted = true ∧
      id = pair.messageId.toString ∧
        document = (mapMessageDocument pair.messageId pair.message).document := by
  obtain ⟨pair, member, accepted, isEntry⟩ := invariant.replica id document stored
  rw [indexEntry_eq runtime (invariant.saved.payload member), Option.some_inj, Prod.mk.injEq]
    at isEntry
  exact ⟨pair, member, accepted, isEntry.1.symm, isEntry.2.symm⟩

/-- Whatever the pipeline has done when a search is answered, and whatever it does after that: the
search is answered, each hit with the response that listing its conversation returns for the
message, and every document stays in the index as it is. -/
theorem search_agrees_with_list {first second : List (PipelineAction Instance Consumer Session
      Number)} {state later : PipelineState Instance Consumer Session Number}
    (reached : Transition.run (pipelineStep saving config runtime) .initial first = some state)
    (toLater : Transition.run (pipelineStep saving config runtime) state second = some later) :
    (∀ id document, state.index id = some document → later.index id = some document) ∧
      ∀ query response, HitsOf state.index query response →
        ∃ answer, mapSearchMessagesResponse (searchResult runtime query response) = some answer ∧
          List.Forall₂ (AnswersAsListed runtime later.messages query.conversationId)
            response.hits answer.data := by
  have initially : ReplicaInvariant saving runtime
      (.initial : PipelineState Instance Consumer Session Number) := by
    refine ⟨.initial, fun id document stored => ?_⟩
    cases stored
  have invariant := (initially.run reached).1
  obtain ⟨laterInvariant, more, stays⟩ := invariant.run toLater
  refine ⟨stays, fun query response hits => ?_⟩
  have found : ∀ hit ∈ response.hits, ∃ message,
      ListReturns runtime later.messages query.conversationId (mapMessageResponse message) ∧
        hit.source = some message.document := by
    intro hit member
    obtain ⟨id, document, source, stored, inConversation⟩ := hits hit member
    obtain ⟨pair, pairMember, _, _, rfl⟩ := invariant.message stored
    refine ⟨_, ?_, source⟩
    rw [← inConversation]
    exact isListedIn_of_stored runtime (laterInvariant.saved.message pair (more pairMember)) rfl
  obtain ⟨data, answered, agree⟩ := mapM_hits runtime found
  refine ⟨⟨data, (searchResult runtime query response).pagination⟩, ?_, agree.imp ?_⟩
  · rw [mapSearchMessagesResponse, show (searchResult runtime query response).data =
      response.hits.flatMap (mapHit runtime) from rfl, answered, Option.map_some]
  · rintro hit item ⟨message, returned, source, isItem⟩
    rw [AnswersAsListed, source, isItem]
    exact ⟨rfl, returned⟩

end Steps

/-- The message that went through the dead-letter topic is found and answered. -/
theorem search_agrees_with_list_redriven : ∃ state,
    Transition.run (pipelineStep .plain .singleAttempt isoRuntime) .initial redrivenMessage =
        some state ∧
      ∃ document, state.index (ObjectId.toString 1) = some document ∧
        ∃ answer, mapSearchMessagesResponse (searchResult isoRuntime
            ⟨document.conversationId, [], 1, 10⟩ ⟨none, [⟨none, some document⟩]⟩) = some answer ∧
          List.Forall₂ (AnswersAsListed isoRuntime state.messages document.conversationId)
            [⟨none, some document⟩] answer.data := by
  have runs : (Transition.run (pipelineStep .plain .singleAttempt isoRuntime) .initial
      redrivenMessage).any (fun state => (state.index (ObjectId.toString 1)).isSome) = true := by
    decide +kernel
  obtain ⟨state, reached, isStored⟩ := (Option.any_eq_true _ _).mp runs
  obtain ⟨document, stored⟩ := Option.isSome_iff_exists.mp isStored
  obtain ⟨_, answers⟩ := search_agrees_with_list reached (Transition.run_nil state)
  refine ⟨state, reached, document, stored, answers ⟨document.conversationId, [], 1, 10⟩
    ⟨none, [⟨none, some document⟩]⟩ ?_⟩
  intro hit member
  rw [List.mem_singleton.mp member]
  exact ⟨_, document, rfl, stored, rfl⟩

end MessageManagement
