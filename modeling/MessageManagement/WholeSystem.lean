/-
This file puts the API and the pipeline together, over the one database that both
write to and the one index that the pipeline fills and the API searches.

Each half was verified with the other as its environment: the API among arbitrary
operations on the outbox, the pipeline among arbitrary commits. Here a step of one
is a step of the environment of the other, so both invariants hold of every run,
and what they say of each other's data can be put together. A message that a reply
shows was posted with a configured key, and a message whose creation was answered
can come to be found: as the answer shows it if it was saved so, and else as it was
saved.
-/

import MessageManagement.ApiRequests
import MessageManagement.Recovery

namespace MessageManagement

variable {Call Instance Consumer Session Number : Type} [JsNumber Number]

/-! ### The system -/

/-- The metadata that the request posts, if any, is what a JSON body can hold. -/
def ApiRequest.IsJson (request : ApiRequest Number) : Prop :=
  ∀ body, request.route = .create body → ∀ value, body.properties.metadata = some value →
    value.Plain

structure JsonRequest (Number : Type) [JsNumber Number] extends ApiRequest Number where
  plain : toApiRequest.IsJson

section Transformed

variable {validators : Validators}

omit [JsNumber Number] in
theorem keys_plainToFields (fields : List (JsString × Json Number)) :
    ((validators.plainToFields fields).map Prod.fst).Sublist (fields.map Prod.fst) := by
  induction fields with
  | nil => exact List.Sublist.refl _
  | cons field rest inductionHypothesis =>
    obtain ⟨key, value⟩ := field
    rw [Validators.plainToFields]
    split
    · exact inductionHypothesis.cons _
    · exact inductionHypothesis.cons_cons _

mutual

/-- The transformation makes JSON of JSON. -/
theorem plain_plainToInstance : ∀ {value : Json Number}, value.Plain →
    (validators.plainToInstance value).Plain
  | .null, plain => plain
  | .bool _, plain => plain
  | .number _, plain => plain
  | .string _, plain => plain
  | .array elements, plain => by
    rw [Validators.plainToInstance, Json.Plain]
    exact plainElements_plainToInstances plain
  | .object fields, plain => by
    rw [Json.Plain] at plain
    rw [Validators.plainToInstance, Json.Plain]
    exact ⟨plain.1.sublist (keys_plainToFields fields), plainFields_plainToFields plain.2⟩

theorem plainElements_plainToInstances : ∀ {elements : List (Json Number)},
    Json.PlainElements elements → Json.PlainElements (validators.plainToInstances elements)
  | [], plain => plain
  | value :: rest, plain => by
    rw [Validators.plainToInstances]
    exact ⟨plain_plainToInstance plain.1, plainElements_plainToInstances plain.2⟩

theorem plainFields_plainToFields : ∀ {fields : List (JsString × Json Number)},
    Json.PlainFields fields → Json.PlainFields (validators.plainToFields fields)
  | [], plain => plain
  | (key, value) :: rest, plain => by
    rw [Json.PlainFields] at plain
    rw [Validators.plainToFields]
    split
    · exact plainFields_plainToFields plain.2
    · exact ⟨plain_plainToInstance plain.1, plainFields_plainToFields plain.2⟩

end

/-- A DTO has the metadata of its body, as the transformation left it. -/
theorem metadata_of_validateBody {body : PostedBody Number} {dto : CreateMessageDto Number}
    (valid : validators.validateBody body = some dto) :
    dto.metadata = body.properties.metadata.map validators.plainToInstance ∧
      validatesMetadata dto.metadata = true := by
  unfold Validators.validateBody at valid
  obtain ⟨_, valid⟩ := Option.ite_none_right_eq_some.mp valid
  obtain ⟨same, passes⟩ := validateCreateMessage_metadata valid
  exact ⟨same, same ▸ passes⟩

end Transformed

/-- What Elasticsearch finds for a search: the `_id`s of documents, with their scores. -/
structure SearchFindings (Number : Type) where
  total : Option EsTotal
  hits : List (JsString × Option Number)

/-- The response for what is found: documents of the index in the conversation of the search. -/
def searchResponse (index : SearchIndex Number) (query : SearchMessagesQuery)
    (findings : SearchFindings Number) : EsSearchResponse Number where
  total := findings.total
  hits := findings.hits.filterMap fun hit =>
    ((index hit.1).filter fun document =>
      decide (document.conversationId = query.conversationId)).map fun document =>
        { score := hit.2, source := some document }

/-- The database is that of the pipeline. The API adds its requests, their calls of the create
service, and which call committed a pair. -/
structure SystemState (Call Instance Consumer Session Number : Type) where
  requests : Call → Option (RequestState Number)
  calls : Call → Option (Execution Number)
  committed : List (CommittedPair Call Instance Number)
  pipeline : PipelineState Instance Consumer Session Number

/-- What the pipeline records of a pair. -/
def CommittedPair.withoutCall (pair : CommittedPair Call Instance Number) :
    CommittedPair Unit Instance Number where
  call := ()
  messageId := pair.messageId
  message := pair.message
  rowId := pair.rowId
  row := pair.row

/-- The pipeline over another content of the database. -/
def PipelineState.withStore (state : PipelineState Instance Consumer Session Number)
    (store : MessageStore Call Instance Number) :
    PipelineState Instance Consumer Session Number :=
  { state with
    messages := store.messages
    committed := store.committed.map CommittedPair.withoutCall
    publishers := { state.publishers with outbox := store.outbox } }

namespace SystemState

def initial : SystemState Call Instance Consumer Session Number where
  requests _ := none
  calls _ := none
  committed := []
  pipeline := .initial

/-- The state of the API. -/
def api (state : SystemState Call Instance Consumer Session Number) :
    ApiState Call Instance Number where
  store :=
    { messages := state.pipeline.messages
      outbox := state.pipeline.publishers.outbox
      calls := state.calls
      committed := state.committed }
  requests := state.requests

/-- The system after a step of the API. -/
def withApi (state : SystemState Call Instance Consumer Session Number)
    (next : ApiState Call Instance Number) :
    SystemState Call Instance Consumer Session Number where
  requests := next.requests
  calls := next.store.calls
  committed := next.store.committed
  pipeline := state.pipeline.withStore next.store

end SystemState

/-- The steps of the API and those of the pipeline; a search is answered from the index. -/
inductive SystemAction (Call Instance Consumer Session Number : Type) [JsNumber Number]
  | receive (call : Call) (request : JsonRequest Number) (objections : List JsString)
      (now : JsDate)
  | execute (action : ExecuteAction Call Instance Number)
  | respond (call : Call) (thrown : ThrownValue) (now : JsDate)
  | query (call : Call) (thrown : Option ThrownValue) (now : JsDate)
  | search (call : Call) (answer : Except ThrownValue (SearchFindings Number)) (now : JsDate)
  | pipeline (action : PipelineAction Instance Consumer Session Number)

/-- The messages that a reply shows as they were read. -/
def ApiReply.read : ApiReply Number → List (MessageResponse Number)
  | .created _ => []
  | .listed response => response.data
  | .found response => response.data.map (·.message)
  | .failed _ _ => []

section Steps

variable [DecidableEq Call] [DecidableEq Instance] [DecidableEq Consumer] [DecidableEq Session]
  [DecidableEq Number]

/-- The other half is all there is to write to the outbox or to commit a message. -/
def systemStep (saving : Saving Number) (api : Api)
    (state : SystemState Call Instance Consumer Session Number) :
    SystemAction Call Instance Consumer Session Number →
      Option (SystemState Call Instance Consumer Session Number)
  | .receive call request objections now =>
    (apiStep saving api state.api (.receive call request.toApiRequest objections now)).map
      state.withApi
  | .execute action =>
    match action with
    | .maintain _ => none
    | _ => (apiStep saving api state.api (.execute action)).map state.withApi
  | .respond call thrown now =>
    (apiStep saving api state.api (.respond call thrown now)).map state.withApi
  | .query call thrown now =>
    (apiStep saving api state.api (.query call thrown now)).map state.withApi
  | .search call answer now =>
    match state.requests call with
    | some ⟨_, .searching query⟩ =>
      (apiStep saving api state.api
        (.search call (answer.map (searchResponse state.pipeline.index query)) now)).map
          state.withApi
    | _ => none
  | .pipeline action =>
    match action with
    | .commit _ _ _ => none
    | _ =>
      (pipelineStep saving api.config api.runtime state.pipeline action).map fun pipeline =>
        { state with pipeline }

end Steps

/-! ### What one half sees of the other -/

section Halves

variable [DecidableEq Call] [DecidableEq Instance] {saving : Saving Number}

/-- The two stores have the same content. -/
structure SameDatabase (first second : MessageStore Call Instance Number) : Prop where
  messages : first.messages = second.messages
  outbox : first.outbox = second.outbox
  committed : first.committed = second.committed

/-- What a step of the create service does to the database: nothing, or it commits a pair. -/
inductive StoreMove (saving : Saving Number) (store : MessageStore Call Instance Number) :
    MessageStore Call Instance Number → Prop
  | kept {next} (same : SameDatabase next store) : StoreMove saving store next
  | committed {next written} (call execution inserts) (was : store.calls call = some execution)
      (wrote : store.commit saving call execution inserts = some written)
      (same : SameDatabase next written) : StoreMove saving store next

theorem executeStep_store {config : PublisherConfig}
    {store next : MessageStore Call Instance Number}
    {action : ExecuteAction Call Instance Number} (own : ∀ write, action ≠ .maintain write)
    (moved : executeStep saving config store action = some next) :
    StoreMove saving store next := by
  cases executeStep_move moved with
  | unchanged => exact .kept ⟨rfl, rfl, rfl⟩
  | started => exact .kept ⟨rfl, rfl, rfl⟩
  | moved => exact .kept ⟨rfl, rfl, rfl⟩
  | committed call phase goesOn was live outstanding wrote =>
    exact .committed call _ _ was wrote ⟨rfl, rfl, rfl⟩
  | failed => exact .kept ⟨rfl, rfl, rfl⟩
  | maintained write => exact absurd rfl (own write)

/-- What a step of the pipeline that commits no message does to the database: an operation on the
outbox, if anything. -/
theorem pipelineStep_database [DecidableEq Consumer] [DecidableEq Session] [DecidableEq Number]
    {config : PublisherConfig} {runtime : JsRuntime}
    {pipeline later : PipelineState Instance Consumer Session Number}
    {action : PipelineAction Instance Consumer Session Number}
    (own : ∀ command now inserts, action ≠ .commit command now inserts)
    (moved : pipelineStep saving config runtime pipeline action = some later) :
    later.messages = pipeline.messages ∧ later.committed = pipeline.committed ∧
      (later.publishers.outbox = pipeline.publishers.outbox ∨
        ∃ write, (∀ id input, write ≠ .create id input) ∧
          perform config write pipeline.publishers.outbox = some later.publishers.outbox) := by
  cases pipelineStep_transition moved with
  | committed => exact absurd rfl (own _ _ _)
  | @published label _ partition created stepped =>
    refine ⟨rfl, rfl, ?_⟩
    rcases (publisherStep_move stepped).outbox with same | ⟨write, performed, issues⟩
    · exact Or.inl same
    · refine Or.inr ⟨write, ?_, performed⟩
      rintro id input rfl
      generalize label.action = publisherAction at created issues
      cases issues
      exact created id input rfl
  | delivered => exact ⟨rfl, rfl, Or.inl rfl⟩
  | indexed => exact ⟨rfl, rfl, Or.inl rfl⟩
  | deadLettered => exact ⟨rfl, rfl, Or.inl rfl⟩
  | resolved => exact ⟨rfl, rfl, Or.inl rfl⟩
  | rejected => exact ⟨rfl, rfl, Or.inl rfl⟩
  | crashed => exact ⟨rfl, rfl, Or.inl rfl⟩
  | passed => exact ⟨rfl, rfl, Or.inl rfl⟩
  | redriven => exact ⟨rfl, rfl, Or.inl rfl⟩

/-- What a step of the API does, by the one request it is about. -/
inductive ApiMove (saving : Saving Number) (api : Api)
    (before : ApiState Call Instance Number) :
    ApiLabel Call Instance Number → ApiState Call Instance Number → Prop
  | received {call request objections now phase} (new : before.requests call = none)
      (admitted : request.admission api objections now = .other phase) :
      ApiMove saving api before (.receive call request objections now)
        (before.setRequest call ⟨request, phase⟩)
  | called {call request objections now command store} (new : before.requests call = none)
      (started :
        executeStep saving api.config before.store (.start call command now) = some store) :
      ApiMove saving api before (.receive call request objections now)
        ({ before with store }.setRequest call ⟨request, .creating⟩)
  | executed {action store}
      (performed : executeStep saving api.config before.store action = some store) :
      ApiMove saving api before (.execute action) { before with store }
  | responded {call request thrown now} (reply : ApiReply Number)
      (stored : before.requests call = some ⟨request, .creating⟩) (reads : reply.read = []) :
      ApiMove saving api before (.respond call thrown now)
        (before.setRequest call ⟨request, .replied reply⟩)
  | queried {call request query thrown now}
      (stored : before.requests call = some ⟨request, .listing query⟩) :
      ApiMove saving api before (.query call thrown now) (before.setRequest call
        ⟨request, .replied (api.listReply request query before.store.messages thrown now)⟩)
  | searched {call request query answer now}
      (stored : before.requests call = some ⟨request, .searching query⟩) :
      ApiMove saving api before (.search call answer now) (before.setRequest call
        ⟨request, .replied (api.searchReply request query answer now)⟩)

theorem apiStep_move {api : Api} {before after : ApiState Call Instance Number}
    {label : ApiLabel Call Instance Number}
    (moved : apiStep saving api before label = some after) :
    ApiMove saving api before label after := by
  cases label with
  | receive call request objections now =>
    simp only [apiStep] at moved
    split at moved
    · cases moved
    · rename_i new
      split at moved
      · rename_i admission
        rw [← Option.some.inj moved]
        exact .received new admission
      · obtain ⟨store, started, rfl⟩ := Option.map_eq_some_iff.mp moved
        exact .called new started
  | execute action =>
    cases action with
    | start => cases moved
    | _ =>
      obtain ⟨store, performed, rfl⟩ := Option.map_eq_some_iff.mp moved
      exact .executed performed
  | respond call thrown now =>
    simp only [apiStep] at moved
    split at moved
    · rename_i stored resolved
      rw [← Option.some.inj moved]
      exact .responded _ stored rfl
    · rename_i stored rejected
      rw [← Option.some.inj moved]
      exact .responded _ stored rfl
    · cases moved
  | query call thrown now =>
    simp only [apiStep] at moved
    split at moved
    · rename_i stored
      rw [← Option.some.inj moved]
      exact .queried stored
    · cases moved
  | search call answer now =>
    simp only [apiStep] at moved
    split at moved
    · rename_i stored
      rw [← Option.some.inj moved]
      exact .searched stored
    · cases moved

end Halves

/-! ### What replies show -/

/-- The response for the message of a pair. -/
def CommittedPair.shown (pair : CommittedPair Call Instance Number) : MessageResponse Number :=
  mapMessageResponse (mapMessageDocument pair.messageId pair.message)

/-- The conversation that a request asks for. -/
def Api.asked (api : Api) (request : ApiRequest Number) : Option JsString :=
  match request.route with
  | .create _ => none
  | .list conversationId _ => api.validators.validateConversationId Number conversationId
  | .search conversationId _ => api.validators.validateConversationId Number conversationId

/-- The items are about committed messages of the conversation that the request asks for. -/
def ShowsCommitted (api : Api) (committed : List (CommittedPair Call Instance Number))
    (request : ApiRequest Number) (items : List (MessageResponse Number)) : Prop :=
  ∀ item ∈ items, api.asked request = some item.conversationId ∧
    ∃ pair ∈ committed, item = pair.shown

/-- The query of a request is about the conversation it asks for, and so is what a reply shows. -/
def PhaseShows (api : Api) (committed : List (CommittedPair Call Instance Number))
    (request : ApiRequest Number) : RequestPhase Number → Prop
  | .creating => True
  | .listing query => api.asked request = some query.conversationId
  | .searching query => api.asked request = some query.conversationId
  | .replied reply => ShowsCommitted api committed request reply.read

section Replies

variable {api : Api} {committed later : List (CommittedPair Call Instance Number)}
  {request : ApiRequest Number}

omit [JsNumber Number] in
theorem PhaseShows.mono {phase : RequestPhase Number}
    (shows : PhaseShows api committed request phase) (more : committed ⊆ later) :
    PhaseShows api later request phase := by
  cases phase with
  | creating => exact trivial
  | listing query => exact shows
  | searching query => exact shows
  | replied reply =>
    intro item member
    obtain ⟨asked, pair, isCommitted, isShown⟩ := shows item member
    exact ⟨asked, pair, more isCommitted, isShown⟩

omit [JsNumber Number] in
/-- A reply that reads nothing shows nothing. -/
theorem phaseShows_of_read {reply : ApiReply Number} (reads : reply.read = []) :
    PhaseShows api committed request (.replied reply) := by
  intro item member
  rw [reads] at member
  exact absurd member List.not_mem_nil

omit [JsNumber Number] in
theorem validateList_conversationId {conversationId : JsString}
    {parameters : ListMessagesParameters} {query : ListMessagesQuery}
    (valid : api.validators.validateList Number conversationId parameters = some query) :
    api.validators.validateConversationId Number conversationId = some query.conversationId := by
  obtain ⟨_, isConversation, valid⟩ := Option.bind_eq_some_iff.mp valid
  obtain ⟨_, _, valid⟩ := Option.bind_eq_some_iff.mp valid
  obtain ⟨_, _, valid⟩ := Option.bind_eq_some_iff.mp valid
  obtain ⟨_, _, valid⟩ := Option.bind_eq_some_iff.mp valid
  rw [Option.ite_none_right_eq_some, Option.some_inj] at valid
  obtain ⟨_, rfl⟩ := valid
  exact isConversation

omit [JsNumber Number] in
theorem validateSearch_conversationId {conversationId : JsString}
    {parameters : SearchMessagesParameters} {query : SearchMessagesQuery}
    (valid : api.validators.validateSearch Number conversationId parameters = some query) :
    api.validators.validateConversationId Number conversationId = some query.conversationId := by
  obtain ⟨_, isConversation, valid⟩ := Option.bind_eq_some_iff.mp valid
  obtain ⟨_, _, valid⟩ := Option.bind_eq_some_iff.mp valid
  obtain ⟨_, _, valid⟩ := Option.bind_eq_some_iff.mp valid
  obtain ⟨_, _, valid⟩ := Option.bind_eq_some_iff.mp valid
  rw [Option.ite_none_right_eq_some, Option.some_inj] at valid
  obtain ⟨_, rfl⟩ := valid
  exact isConversation

/-- A request that goes on to a query goes on with the conversation it asks for. -/
theorem phaseShows_admission {objections : List JsString} {now : JsDate}
    {phase : RequestPhase Number}
    (admitted : request.admission api objections now = .other phase) :
    PhaseShows api committed request phase := by
  unfold ApiRequest.admission at admitted
  dsimp only at admitted
  split at admitted
  · rw [← Admission.other.inj admitted]
    exact phaseShows_of_read rfl
  · split at admitted
    · rw [← Admission.other.inj admitted]
      exact phaseShows_of_read rfl
    · split at admitted
      · rename_i validated
        rw [admitted] at validated
        unfold ApiRequest.validated at validated
        split at validated
        · obtain ⟨_, _, isOther⟩ := Option.map_eq_some_iff.mp validated
          cases isOther
        · rename_i isList
          obtain ⟨query, valid, isListing⟩ := Option.map_eq_some_iff.mp validated
          rw [← Admission.other.inj isListing, PhaseShows, Api.asked, isList]
          exact validateList_conversationId valid
        · rename_i isSearch
          obtain ⟨query, valid, isSearching⟩ := Option.map_eq_some_iff.mp validated
          rw [← Admission.other.inj isSearching, PhaseShows, Api.asked, isSearch]
          exact validateSearch_conversationId valid
      · rw [← Admission.other.inj admitted]
        exact phaseShows_of_read rfl

/-- A page is read from the messages of the conversation. -/
theorem mem_listMessages {runtime : JsRuntime} {query : ListMessagesQuery}
    {messages : MessageCollection Number} {result : ListMessagesResult Number}
    (listed : listMessages runtime query messages = .ok result) {message : Message Number}
    (member : message ∈ result.data) :
    ∃ id document, messages.find id = some document ∧
      document.conversationId = query.conversationId ∧
        message = mapMessageDocument id document := by
  unfold listMessages at listed
  dsimp only at listed
  cases decoded : decodeQueryCursor Number runtime (query.sortOrder.getD .desc) query.cursor with
  | error refused =>
    rw [decoded] at listed
    cases listed
  | ok after =>
    rw [decoded] at listed
    rw [← Except.ok.inj listed] at member
    obtain ⟨entry, found, rfl⟩ := List.mem_map.mp (List.mem_of_mem_take member)
    have sorted := List.mem_of_mem_take found
    rw [findByConversation, List.mem_insertionSort, List.mem_filter, Collection.mem_entries,
      Bool.and_eq_true, beq_iff_eq] at sorted
    exact ⟨entry.1, entry.2, sorted.1, sorted.2.1, rfl⟩

/-- What a list request is answered with. -/
theorem mem_listReply {query : ListMessagesQuery} {messages : MessageCollection Number}
    {thrown : Option ThrownValue} {now : JsDate} {item : MessageResponse Number}
    (member : item ∈ (api.listReply request query messages thrown now).read) :
    ∃ id document, messages.find id = some document ∧
      document.conversationId = query.conversationId ∧
        item = mapMessageResponse (mapMessageDocument id document) := by
  unfold Api.listReply at member
  dsimp only at member
  split at member
  · exact absurd member List.not_mem_nil
  · exact absurd member List.not_mem_nil
  · exact absurd member List.not_mem_nil
  · rename_i result outcome
    obtain ⟨message, isListed, rfl⟩ := List.mem_map.mp member
    obtain ⟨id, document, stored, inConversation, rfl⟩ :=
      mem_listMessages (listMessages_of_outcome outcome) isListed
    exact ⟨id, document, stored, inConversation, rfl⟩

/-- What a search request is answered with, where each document found is that of a message. -/
theorem mem_searchReply {query : SearchMessagesQuery} {Found : Message Number → Prop}
    {answer : Except ThrownValue (EsSearchResponse Number)} {now : JsDate}
    {item : MessageResponse Number}
    (found : ∀ response, answer = .ok response → ∀ hit ∈ response.hits, ∃ message,
      Found message ∧ hit.source = some message.document)
    (member : item ∈ (api.searchReply request query answer now).read) :
    ∃ message, Found message ∧ item = mapMessageResponse message := by
  cases answer with
  | error thrown =>
    cases thrown with
    | _ => exact absurd member List.not_mem_nil
  | ok response =>
    obtain ⟨data, answered, agree⟩ := mapM_hits api.runtime (found response rfl)
    have isFound : mapSearchMessagesResponse (searchResult api.runtime query response) =
        some ⟨data, (searchResult api.runtime query response).pagination⟩ := by
      rw [mapSearchMessagesResponse, show (searchResult api.runtime query response).data =
        response.hits.flatMap (mapHit api.runtime) from rfl, answered, Option.map_some]
    simp only [Api.searchReply, searchMessages, Except.mapError, executeSearchMessages, isFound]
      at member
    obtain ⟨answeredItem, isAnswered, rfl⟩ := List.mem_map.mp member
    obtain ⟨index, bound, rfl⟩ := List.getElem_of_mem isAnswered
    obtain ⟨message, isFound, _, isItem⟩ := agree.get (agree.length_eq ▸ bound) bound
    exact ⟨message, isFound, isItem⟩

end Replies

/-! ### The invariant of the system -/

section Runs

variable [DecidableEq Call] [DecidableEq Instance] [DecidableEq Consumer] [DecidableEq Session]
  [DecidableEq Number] {saving : Saving Number} {api : Api}
  {state next : SystemState Call Instance Consumer Session Number}

/-- What holds in every state: each half is as it is among any steps of the other, both record the
same pairs, and replies show committed messages. -/
structure SystemInvariant (saving : Saving Number) (api : Api)
    (state : SystemState Call Instance Consumer Session Number) : Prop where
  recovery : RecoveryInvariant saving api.config api.runtime state.pipeline
  requests : ApiInvariant saving api state.api
  recorded : state.pipeline.committed = state.committed.map CommittedPair.withoutCall
  json : ∀ call request phase, state.requests call = some ⟨request, phase⟩ → request.IsJson
  shows : ∀ call request phase, state.requests call = some ⟨request, phase⟩ →
    PhaseShows api state.committed request phase

omit [DecidableEq Consumer] [DecidableEq Session] in
theorem SystemInvariant.initial : SystemInvariant saving api
    (.initial : SystemState Call Instance Consumer Session Number) where
  recovery := .initial
  requests := .initial
  recorded := rfl
  json _ _ _ stored := by cases stored
  shows _ _ _ stored := by cases stored

omit [DecidableEq Consumer] [DecidableEq Session] in
/-- A call has JSON for its metadata. -/
theorem SystemInvariant.plain (invariant : SystemInvariant saving api state) {call : Call}
    {execution : Execution Number} (stored : state.calls call = some execution) :
    ∀ value, execution.command.metadata = some value → value.Plain := by
  obtain ⟨request, phase, isFound, _, body, dto, isCreate, valid, command⟩ :=
    invariant.requests.submitted call execution stored
  intro value isMetadata
  rw [command, show (dto.command request.http.resolveCorrelationId).metadata = dto.metadata from
    rfl, (metadata_of_validateBody valid).1] at isMetadata
  obtain ⟨posted, isPosted, rfl⟩ := Option.map_eq_some_iff.mp isMetadata
  exact plain_plainToInstance (invariant.json call request phase isFound body isCreate posted
    isPosted)

omit [JsNumber Number] [DecidableEq Call] [DecidableEq Instance] [DecidableEq Consumer]
  [DecidableEq Session] [DecidableEq Number] in
theorem withStore_congr {pipeline : PipelineState Instance Consumer Session Number}
    {first second : MessageStore Call Instance Number} (same : SameDatabase first second) :
    pipeline.withStore first = pipeline.withStore second := by
  rw [PipelineState.withStore, same.messages, same.outbox, same.committed]
  rfl

omit [DecidableEq Consumer] [DecidableEq Session] in
theorem SystemInvariant.withStore_api (invariant : SystemInvariant saving api state) :
    state.pipeline.withStore state.api.store = state.pipeline := by
  rw [PipelineState.withStore]
  show { state.pipeline with committed := state.committed.map CommittedPair.withoutCall } =
    state.pipeline
  rw [← invariant.recorded]

/-- A commit of the create service is one of the pipeline. -/
theorem SystemInvariant.commit (invariant : SystemInvariant saving api state) {call : Call}
    {execution : Execution Number} {inserts : Inserts} {written : MessageStore Call Instance Number}
    (stored : state.calls call = some execution)
    (wrote : state.api.store.commit saving call execution inserts = some written) :
    pipelineStep saving api.config api.runtime state.pipeline
      (.commit ⟨execution.command, invariant.plain stored⟩ execution.now inserts) =
        some (state.pipeline.withStore written) := by
  unfold MessageStore.commit at wrote
  split at wrote
  · rename_i freshMessage
    split at wrote
    · rename_i freshRow
      rw [← Option.some.inj wrote, pipelineStep, MessageStore.commit,
        dif_pos (show inserts.messageId ∉ state.pipeline.store.messages.keys from freshMessage),
        dif_pos (show inserts.rowId ∉ state.pipeline.store.outbox.keys from freshRow),
        PipelineState.withStore]
      dsimp only
      rw [List.map_append, show state.api.store.committed = state.committed from rfl,
        ← invariant.recorded]
      rfl
    · cases wrote
  · cases wrote

/-- What the create service does to the database, the pipeline takes for commits. -/
theorem SystemInvariant.withStore (invariant : SystemInvariant saving api state)
    [LawfulJsNumber Number] {store : MessageStore Call Instance Number}
    (moved : StoreMove saving state.api.store store) :
    RecoveryInvariant saving api.config api.runtime (state.pipeline.withStore store) ∧
      state.committed ⊆ store.committed := by
  cases moved with
  | kept same =>
    rw [withStore_congr same, invariant.withStore_api, same.committed]
    exact ⟨invariant.recovery, List.Subset.refl _⟩
  | @committed written call execution inserts was wrote same =>
    rw [withStore_congr same, same.committed]
    refine ⟨invariant.recovery.step (invariant.commit was wrote), ?_⟩
    rw [(commit_eq_some wrote).2.2.2.1]
    exact List.subset_append_left _ _

omit [JsNumber Number] [DecidableEq Instance] [DecidableEq Consumer] [DecidableEq Session]
  [DecidableEq Number] in
/-- What holds of all requests holds of them after one of them went on. -/
theorem requests_setRequest {Holds : ApiRequest Number → RequestPhase Number → Prop}
    {before : ApiState Call Instance Number} {call : Call} {request : ApiRequest Number}
    {phase : RequestPhase Number}
    (others : ∀ other found after, before.requests other = some ⟨found, after⟩ →
      Holds found after) (own : Holds request phase) :
    ∀ other found after, (before.setRequest call ⟨request, phase⟩).requests other =
      some ⟨found, after⟩ → Holds found after := by
  intro other found after stored
  have stored : Function.update before.requests call (some ⟨request, phase⟩) other =
    some ⟨found, after⟩ := stored
  by_cases same : other = call
  · rw [same, Function.update_self, Option.some_inj, RequestState.mk.injEq] at stored
    obtain ⟨rfl, rfl⟩ := stored
    exact own
  · rw [Function.update_of_ne same] at stored
    exact others other found after stored

omit [DecidableEq Consumer] [DecidableEq Session] in
/-- A document of the index is that of a message whose pair both halves record. -/
theorem SystemInvariant.document (invariant : SystemInvariant saving api state)
    {id : JsString} {document : EsMessageDocument Number}
    (stored : state.pipeline.index id = some document) :
    ∃ pair ∈ state.committed, isAbsentOrRecord pair.message.metadata = true ∧
      id = pair.messageId.toString ∧
        document = (mapMessageDocument pair.messageId pair.message).document := by
  obtain ⟨pair, member, accepted, isId, isDocument⟩ :=
    invariant.recovery.toReplicaInvariant.message stored
  rw [invariant.recovery.isAccepted_eq member] at accepted
  rw [invariant.recorded] at member
  obtain ⟨own, isOwn, rfl⟩ := List.mem_map.mp member
  exact ⟨own, isOwn, accepted, isId, isDocument⟩

omit [DecidableEq Consumer] [DecidableEq Session] in
/-- The hits of a response from the index are documents of committed messages. -/
theorem SystemInvariant.hits (invariant : SystemInvariant saving api state)
    {query : SearchMessagesQuery} {findings : SearchFindings Number} {hit : EsSearchHit Number}
    (member : hit ∈ (searchResponse state.pipeline.index query findings).hits) :
    ∃ message : Message Number, (message.conversationId = query.conversationId ∧
      ∃ pair ∈ state.committed, message = mapMessageDocument pair.messageId pair.message) ∧
        hit.source = some message.document := by
  obtain ⟨found, _, isHit⟩ := List.mem_filterMap.mp member
  obtain ⟨document, isFound, rfl⟩ := Option.map_eq_some_iff.mp isHit
  obtain ⟨stored, inConversation⟩ := Option.filter_eq_some_iff.mp isFound
  obtain ⟨pair, isPair, _, _, rfl⟩ := invariant.document stored
  exact ⟨_, ⟨of_decide_eq_true inConversation, pair, isPair, rfl⟩, rfl⟩

omit [DecidableEq Consumer] [DecidableEq Session] in
/-- A stored message is that of a pair. -/
theorem SystemInvariant.message (invariant : SystemInvariant saving api state) {id : ObjectId}
    {document : MessageEntity Number} (stored : state.pipeline.messages.find id = some document) :
    ∃ pair ∈ state.committed, pair.messageId = id ∧ pair.message = document := by
  have saved : SavedPairs saving state.api.store := invariant.requests.store.toSavedPairs
  exact saved.of_message stored

variable [LawfulJsNumber Number]

/-- Whatever the API does with JSON requests, and with searches that are answered from the
index. -/
theorem SystemInvariant.afterApi (invariant : SystemInvariant saving api state)
    {label : ApiLabel Call Instance Number} {after : ApiState Call Instance Number}
    (stepped : apiStep saving api state.api label = some after)
    (json : ∀ call request objections now, label = .receive call request objections now →
      request.IsJson)
    (own : ∀ write, label ≠ .execute (.maintain write))
    (answered : ∀ call answer now, label = .search call answer now →
      ∀ request query, state.requests call = some ⟨request, .searching query⟩ →
        ∃ found : Except ThrownValue (SearchFindings Number),
          answer = found.map (searchResponse state.pipeline.index query)) :
    SystemInvariant saving api (state.withApi after) := by
  have requests := apiStep_invariant invariant.requests stepped
  -- both halves and the requests, where the database is as before
  have settled : ∀ {call : Call} {request : ApiRequest Number} {phase : RequestPhase Number},
      request.IsJson → PhaseShows api state.committed request phase →
      after = state.api.setRequest call ⟨request, phase⟩ →
        SystemInvariant saving api (state.withApi after) := by
    rintro call request phase isJson shows rfl
    refine ⟨?_, requests, rfl, requests_setRequest invariant.json isJson,
      requests_setRequest invariant.shows shows⟩
    rw [show (state.withApi (state.api.setRequest call ⟨request, phase⟩)).pipeline =
      state.pipeline.withStore state.api.store from rfl, invariant.withStore_api]
    exact invariant.recovery
  cases apiStep_move stepped with
  | @received call request objections now phase new admitted =>
    exact settled (json call request objections now rfl) (phaseShows_admission admitted) rfl
  | @called call request objections now command store new started =>
    obtain ⟨recovery, more⟩ := invariant.withStore
      (executeStep_store (fun write isWrite => by cases isWrite) started)
    refine ⟨recovery, requests, rfl,
      requests_setRequest invariant.json (json call request objections now rfl),
      requests_setRequest (fun other found phase stored => ?_) trivial⟩
    exact (invariant.shows other found phase stored).mono more
  | @executed action store performed =>
    obtain ⟨recovery, more⟩ := invariant.withStore
      (executeStep_store (fun write isWrite => own write (isWrite ▸ rfl)) performed)
    refine ⟨recovery, requests, rfl, invariant.json, fun call request phase stored => ?_⟩
    exact (invariant.shows call request phase stored).mono more
  | @responded call request thrown now reply stored reads =>
    exact settled (invariant.json call request _ stored) (phaseShows_of_read reads) rfl
  | @queried call request query thrown now stored =>
    refine settled (invariant.json call request _ stored) ?_ rfl
    intro item member
    obtain ⟨id, document, isStored, inConversation, rfl⟩ := mem_listReply member
    obtain ⟨pair, isPair, rfl, rfl⟩ := invariant.message isStored
    refine ⟨(invariant.shows call request _ stored).trans ?_, pair, isPair, rfl⟩
    exact congrArg some inConversation.symm
  | @searched call request query answer now stored =>
    refine settled (invariant.json call request _ stored) ?_ rfl
    obtain ⟨found, rfl⟩ := answered call answer now rfl request query stored
    have hits : ∀ response, found.map (searchResponse state.pipeline.index query) = .ok response →
        ∀ hit ∈ response.hits, ∃ message : Message Number,
          (message.conversationId = query.conversationId ∧
            ∃ pair ∈ state.committed, message = mapMessageDocument pair.messageId pair.message) ∧
              hit.source = some message.document := by
      intro response isResponse hit isHit
      cases found with
      | error thrown => cases isResponse
      | ok findings =>
        rw [← Except.ok.inj isResponse] at isHit
        exact invariant.hits isHit
    intro item member
    obtain ⟨message, ⟨inConversation, pair, isPair, rfl⟩, rfl⟩ := mem_searchReply hits member
    refine ⟨(invariant.shows call request _ stored).trans ?_, pair, isPair, rfl⟩
    exact congrArg some inConversation.symm

/-- What the pipeline does to the outbox, the API takes for operations of others. -/
theorem SystemInvariant.afterPipeline (invariant : SystemInvariant saving api state)
    {action : PipelineAction Instance Consumer Session Number}
    {pipeline : PipelineState Instance Consumer Session Number}
    (own : ∀ command now inserts, action ≠ .commit command now inserts)
    (stepped : pipelineStep saving api.config api.runtime state.pipeline action = some pipeline) :
    SystemInvariant saving api { state with pipeline } := by
  obtain ⟨messages, committed, wrote⟩ := pipelineStep_database own stepped
  have isApi : ({ state with pipeline } : SystemState Call Instance Consumer Session Number).api =
      { state.api with
        store := { state.api.store with outbox := pipeline.publishers.outbox } } := by
    rw [SystemState.api, messages]
    rfl
  refine ⟨invariant.recovery.step stepped, ?_, committed.trans invariant.recorded,
    invariant.json, invariant.shows⟩
  rw [isApi]
  rcases wrote with same | ⟨write, inserts, performed⟩
  · rw [same]
    exact invariant.requests
  · have continues : (ExecuteAction.maintain write : ExecuteAction Call Instance Number).continues =
        true := rfl
    refine invariant.requests.execute continues ?_
    cases write with
    | create id input => exact absurd rfl (inserts id input)
    | _ =>
      simp only [executeStep]
      rw [show state.api.store.outbox = state.pipeline.publishers.outbox from rfl, performed]
      rfl

theorem systemStep_invariant {action : SystemAction Call Instance Consumer Session Number}
    (invariant : SystemInvariant saving api state)
    (moved : systemStep saving api state action = some next) :
    SystemInvariant saving api next := by
  cases action with
  | receive call request objections now =>
    obtain ⟨after, stepped, rfl⟩ := Option.map_eq_some_iff.mp moved
    refine invariant.afterApi stepped ?_ (fun write isWrite => by cases isWrite)
      fun call answer now isSearch => by cases isSearch
    intro call received objections now isReceive
    rw [ApiLabel.receive.injEq] at isReceive
    exact isReceive.2.1 ▸ request.plain
  | execute action =>
    simp only [systemStep] at moved
    split at moved
    · cases moved
    · rename_i own
      obtain ⟨after, stepped, rfl⟩ := Option.map_eq_some_iff.mp moved
      refine invariant.afterApi stepped (fun _ _ _ _ isReceive => by cases isReceive) ?_
        fun call answer now isSearch => by cases isSearch
      intro write isWrite
      rw [ApiLabel.execute.injEq] at isWrite
      exact own write isWrite
  | respond call thrown now =>
    obtain ⟨after, stepped, rfl⟩ := Option.map_eq_some_iff.mp moved
    exact invariant.afterApi stepped (fun _ _ _ _ isReceive => by cases isReceive)
      (fun write isWrite => by cases isWrite) fun call answer now isSearch => by cases isSearch
  | query call thrown now =>
    obtain ⟨after, stepped, rfl⟩ := Option.map_eq_some_iff.mp moved
    exact invariant.afterApi stepped (fun _ _ _ _ isReceive => by cases isReceive)
      (fun write isWrite => by cases isWrite) fun call answer now isSearch => by cases isSearch
  | search call answer now =>
    simp only [systemStep] at moved
    split at moved
    · rename_i request query stored
      obtain ⟨after, stepped, rfl⟩ := Option.map_eq_some_iff.mp moved
      refine invariant.afterApi stepped (fun _ _ _ _ isReceive => by cases isReceive)
        (fun write isWrite => by cases isWrite) ?_
      intro other answered later isSearch found asked isStored
      rw [ApiLabel.search.injEq] at isSearch
      obtain ⟨rfl, rfl, rfl⟩ := isSearch
      rw [stored, Option.some_inj, RequestState.mk.injEq, RequestPhase.searching.injEq] at isStored
      exact ⟨answer, isStored.2 ▸ rfl⟩
    · cases moved
  | pipeline action =>
    simp only [systemStep] at moved
    split at moved
    · cases moved
    · rename_i own
      obtain ⟨pipeline, stepped, rfl⟩ := Option.map_eq_some_iff.mp moved
      exact invariant.afterPipeline own stepped

/-! ### What was posted is served -/

/-- What an item shows of a validated body: content and metadata as they are saved, which is as
they were validated for a command that is saved as it is. -/
structure ShowsBody (saving : Saving Number) (dto : CreateMessageDto Number)
    (correlationId : JsString) (item : MessageResponse Number) : Prop where
  conversationId : item.conversationId = dto.conversationId
  senderId : item.senderId = dto.senderId
  content : item.content = toWellFormed dto.content
  metadata : item.metadata = dto.metadata.bind (savedValue saving)
  asIs : (dto.command correlationId).isSavedAsIs saving = true →
    item.content = dto.content ∧ item.metadata = dto.metadata

/-- Some request that the guard and the validators let pass posted what the item shows. -/
def Posted (saving : Saving Number) (api : Api)
    (state : SystemState Call Instance Consumer Session Number) (item : MessageResponse Number) :
    Prop :=
  ∃ call request phase body dto, state.requests call = some ⟨request, phase⟩ ∧
    request.bodyError = none ∧ api.admits request = true ∧ request.route = .create body ∧
      api.validators.validateBody body = some dto ∧
        ShowsBody saving dto request.http.resolveCorrelationId item

/-- A list or a search shows messages of the conversation it was asked for, which were posted. -/
def ShowsPosted (saving : Saving Number) (api : Api)
    (state : SystemState Call Instance Consumer Session Number) : Prop :=
  ∀ call request reply, state.requests call = some ⟨request, .replied reply⟩ →
    ∀ item ∈ reply.read, api.asked request = some item.conversationId ∧
      Posted saving api state item

namespace MessageResponse

/-- The document that shows what the response shows. -/
def document (response : MessageResponse Number) : EsMessageDocument Number where
  id := response.id
  conversationId := response.conversationId
  senderId := response.senderId
  content := response.content
  timestamp := response.timestamp
  metadata := response.metadata

/-- The document that shows what is saved of the response. -/
def savedDocument (saving : Saving Number) (response : MessageResponse Number) :
    EsMessageDocument Number where
  id := response.id
  conversationId := toWellFormed response.conversationId
  senderId := toWellFormed response.senderId
  content := toWellFormed response.content
  timestamp := response.timestamp
  metadata := response.metadata.bind (savedValue saving)

/-- The texts of the response are well-formed, and its metadata is saved as it is. -/
def isSavedAsIs (saving : Saving Number) (response : MessageResponse Number) : Bool :=
  isWellFormed response.conversationId && isWellFormed response.senderId &&
    isWellFormed response.content && isMetadataSavedAsIs saving response.metadata

omit [LawfulJsNumber Number] [DecidableEq Number] in
theorem savedDocument_eq_document {response : MessageResponse Number}
    (asIs : response.isSavedAsIs saving = true) :
    response.savedDocument saving = response.document := by
  rw [isSavedAsIs, Bool.and_eq_true, Bool.and_eq_true, Bool.and_eq_true,
    ← toWellFormed_eq_self_iff, ← toWellFormed_eq_self_iff, ← toWellFormed_eq_self_iff,
    ← bind_savedValue_eq_self_iff] at asIs
  obtain ⟨⟨⟨conversationId, senderId⟩, content⟩, metadata⟩ := asIs
  rw [savedDocument, conversationId, senderId, content, metadata]
  rfl

end MessageResponse

/-- The index has the document of each message whose creation was answered: the answered one if
that is saved as it is, and else the saved one, unless its metadata is no record. -/
structure IndexesCreated (saving : Saving Number)
    (state : SystemState Call Instance Consumer Session Number) (index : SearchIndex Number) :
    Prop where
  answered : ∀ call request response,
    state.requests call = some ⟨request, .replied (.created response)⟩ →
      response.isSavedAsIs saving = true → response.metadata ≠ some .null →
        index response.id = some response.document
  saved : ∀ call request response,
    state.requests call = some ⟨request, .replied (.created response)⟩ →
      index response.id =
        if isAbsentOrRecord (response.metadata.bind (savedValue saving)) then
          some (response.savedDocument saving)
        else none
  refused : ∀ call request response,
    state.requests call = some ⟨request, .replied (.created response)⟩ →
      response.metadata = some .null → index response.id = none

omit [DecidableEq Consumer] [DecidableEq Session] [LawfulJsNumber Number] in
theorem SystemInvariant.showsPosted (invariant : SystemInvariant saving api state) :
    ShowsPosted saving api state := by
  intro call request reply stored item member
  obtain ⟨asked, pair, isPair, rfl⟩ := invariant.shows call request _ stored item member
  refine ⟨asked, ?_⟩
  obtain ⟨author, phase, body, dto, isAuthor, parsed, admits, isCreate, valid, written⟩ :=
    invariant.requests.answersSafely.written pair isPair
  exact ⟨pair.call, author, phase, body, dto, isAuthor, parsed, admits, isCreate, valid,
    written.conversationId, written.senderId, written.content, written.metadata, written.asIs⟩

omit [DecidableEq Consumer] [DecidableEq Session] [LawfulJsNumber Number] in
/-- A message whose creation was answered is stored, with what is saved of the response. -/
theorem SystemInvariant.created (invariant : SystemInvariant saving api state) {call : Call}
    {request : ApiRequest Number} {response : MessageResponse Number}
    (stored : state.requests call = some ⟨request, .replied (.created response)⟩) :
    ∃ id document, state.pipeline.messages.find id = some document ∧
      response.id = id.toString ∧
        response.savedDocument saving = (mapMessageDocument id document).document ∧
          document.metadata = response.metadata.bind (savedValue saving) ∧
            validatesMetadata response.metadata = true := by
  obtain ⟨execution, inserts, returned, called, resolved, rfl⟩ :=
    invariant.requests.phases call request _ stored
  obtain rfl := invariant.requests.store.returned call execution called inserts returned resolved
  have isPair : execution.pair saving call inserts ∈ state.committed := by
    have pairs := invariant.requests.store.calls call
    rw [called, pairsOf, Execution.applied, resolved] at pairs
    have isOwn : execution.pair saving call inserts ∈
        state.committed.filter fun pair => decide (pair.call = call) := by
      rw [show List.filter _ state.committed = _ from pairs]
      exact List.mem_singleton.mpr rfl
    exact List.mem_of_mem_filter isOwn
  obtain ⟨found, phase, isFound, _, body, dto, isCreate, valid, command⟩ :=
    invariant.requests.submitted call execution called
  refine ⟨inserts.messageId, _, invariant.requests.store.message _ isPair, rfl, rfl, rfl, ?_⟩
  rw [show (mapMessageResponse (execution.message inserts.messageId)).metadata = dto.metadata from
    congrArg CreateMessageCommand.metadata command]
  exact (metadata_of_validateBody valid).2

omit [DecidableEq Consumer] [DecidableEq Session] [LawfulJsNumber Number] in
/-- Where the index mirrors the messages, it has those whose creation was answered. -/
theorem SystemInvariant.indexesCreated (invariant : SystemInvariant saving api state)
    {index : SearchIndex Number} (mirrors : Mirrors state.pipeline.messages index) :
    IndexesCreated saving state index := by
  have saved : ∀ call request response,
      state.requests call = some ⟨request, .replied (.created response)⟩ →
        index response.id =
          if isAbsentOrRecord (response.metadata.bind (savedValue saving)) then
            some (response.savedDocument saving)
          else none := by
    intro call request response stored
    obtain ⟨id, document, isStored, isId, isDocument, metadata, _⟩ := invariant.created stored
    rw [isId, mirrors.message id document isStored, metadata, isDocument]
  refine ⟨fun call request response stored asIs present => ?_, saved,
    fun call request response stored absent => ?_⟩
  · obtain ⟨_, _, _, _, _, _, valid⟩ := invariant.created stored
    have metadata : response.metadata.bind (savedValue saving) = response.metadata := by
      rw [MessageResponse.isSavedAsIs, Bool.and_eq_true] at asIs
      exact bind_savedValue_eq_self_iff.mpr asIs.2
    rw [saved call request response stored, metadata,
      if_pos ((isAbsentOrRecord_iff valid).mpr present),
      MessageResponse.savedDocument_eq_document asIs]
  · rw [saved call request response stored, absent]
    rfl

omit [LawfulJsNumber Number] in
/-- A run of repairs of the pipeline is one of the system, which leaves the API as it is. -/
theorem run_repairs {repairs : List (PipelineAction Instance Consumer Session Number)}
    {pipeline : PipelineState Instance Consumer Session Number}
    (reached : Transition.run (pipelineStep saving api.config api.runtime) state.pipeline repairs =
      some pipeline)
    (along : Transition.Along (pipelineStep saving api.config api.runtime) IsRepair state.pipeline
      repairs) :
    Transition.run (systemStep saving api) state (repairs.map SystemAction.pipeline) =
      some { state with pipeline } := by
  induction repairs generalizing state with
  | nil =>
    rw [Transition.run_nil, Option.some_inj] at reached
    rw [← reached]
    rfl
  | cons action rest inductionHypothesis =>
    obtain ⟨middle, moved, reached⟩ := Option.bind_eq_some_iff.mp reached
    obtain ⟨repair, along⟩ := along
    have stepped : systemStep saving api state (.pipeline action) =
        some { state with pipeline := middle } := by
      cases action with
      | commit command now inserts => exact repair.elim
      | _ =>
        simp only [systemStep]
        rw [moved]
        rfl
    rw [List.map_cons, Transition.run, stepped, Option.bind_some]
    have rest : Transition.run (systemStep saving api) { state with pipeline := middle } _ =
        some { state with pipeline } := inductionHypothesis reached (along middle moved)
    exact rest

/-- Whatever requests came in, and whatever failed, crashed or was sent twice behind them: replies
show what was posted, to whom asks for its conversation, and from every state the system can go
on, without another request, to one in which every message whose creation was answered is found. -/
theorem posted_messages_served [Infinite Instance] [Infinite Session] [Nonempty Consumer]
    (batch : 0 < api.config.batchSize)
    {actions : List (SystemAction Call Instance Consumer Session Number)}
    (reached : Transition.run (systemStep saving api) .initial actions = some state) :
    ShowsPosted saving api state ∧
      ∃ repairs final, Transition.run (systemStep saving api) state
          (repairs.map SystemAction.pipeline) = some final ∧
        Transition.Along (pipelineStep saving api.config api.runtime) IsRepair state.pipeline
          repairs ∧
        final.requests = state.requests ∧ IndexesCreated saving state final.pipeline.index := by
  have invariant : SystemInvariant saving api state :=
    Transition.run_invariant (fun _ _ _ holds moved => systemStep_invariant holds moved) .initial
      reached
  obtain ⟨pipeline, ⟨repairs, finished, along⟩, kept, mirrors⟩ :=
    invariant.recovery.recovers_all batch
  refine ⟨invariant.showsPosted, repairs, { state with pipeline }, run_repairs finished along,
    along, rfl, invariant.indexesCreated ?_⟩
  exact kept.messages ▸ mirrors

end Runs

/-- A POST with the key. -/
def exampleJsonPost : JsonRequest Nat where
  toApiRequest := examplePost (some (jsString "secret"))
  plain body isCreate value isMetadata := by
    cases isCreate
    cases isMetadata

/-- A request with the key for the messages of the same conversation. -/
def exampleList : JsonRequest Nat where
  toApiRequest :=
    { examplePost (some (jsString "secret")) with
      route := .list (jsString "conversation-1") ⟨none, none, none, []⟩ }
  plain body isCreate := by cases isCreate

/-- A message is posted and listed; the publisher of its event crashes with the event claimed. -/
def postedAndListed : List (SystemAction Bool Nat Bool Nat Nat) :=
  [.receive true exampleJsonPost [] exampleDate, .execute (.insertMessage true 1),
    .execute (.insertOutboxEvent true 2 (jsString "event-1")), .execute (.commit true),
    .respond true (.other []) exampleDate,
    .pipeline (.publisher ⟨exampleDate.ms, .startRun 0⟩ 0),
    .pipeline (.publisher ⟨exampleDate.ms, .claim 0⟩ 0),
    .pipeline (.publisher ⟨exampleDate.ms, .crash 0⟩ 0),
    .receive false exampleList [] exampleDate, .query false none exampleDate]

/-- How many messages the reply to a request shows. -/
def SystemState.shownTo (call : Bool) (state : SystemState Bool Nat Bool Nat Nat) : Option Nat :=
  (state.requests call).bind fun request =>
    match request.phase with
    | .replied reply => some reply.read.length
    | _ => none

theorem posted_messages_served_listed :
    ∃ state, Transition.run (systemStep .plain exampleApi) .initial postedAndListed = some state ∧
      state.api.statusOf true = some 201 ∧ state.shownTo false = some 1 ∧
      ShowsPosted .plain exampleApi state ∧
      ∃ repairs final, Transition.run (systemStep .plain exampleApi) state
          (repairs.map SystemAction.pipeline) = some final ∧
        Transition.Along (pipelineStep .plain exampleApi.config exampleApi.runtime) IsRepair
          state.pipeline repairs ∧
        final.requests = state.requests ∧ IndexesCreated .plain state final.pipeline.index := by
  have runs : (Transition.run (systemStep .plain exampleApi) .initial postedAndListed).any
      (fun state =>
        decide (state.api.statusOf true = some 201 ∧ state.shownTo false = some 1)) = true := by
    decide +kernel
  obtain ⟨state, reached, replied⟩ := (Option.any_eq_true _ _).mp runs
  obtain ⟨created, listed⟩ := of_decide_eq_true replied
  exact ⟨state, reached, created, listed, posted_messages_served (by decide) reached⟩

end MessageManagement
