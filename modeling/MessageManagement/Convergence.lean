/-
This file proves that the search index converges: whatever the order and the
number of deliveries, and whatever became of the requests that failed, an index
in which every event was indexed once holds one document per message.

Any number of consumers handle deliveries at the same time. Every write of theirs
is the document of the delivered event under its message id, and a message has
one event, so the writes never disagree.
-/

import MessageManagement.EventFormat

namespace MessageManagement

variable {Call Instance Consumer Number : Type}

/-! ### Deliveries -/

/-- The index, the delivery each consumer is handling, and the events that were indexed with
success so far. No step reads the last. -/
structure DeliveryState (Consumer Number : Type) where
  index : SearchIndex Number
  handling : Consumer → Option (MessageCreatedEvent Number × HandlerPhase Number)
  indexed : List (MessageCreatedEvent Number)

def DeliveryState.initial : DeliveryState Consumer Number where
  index _ := none
  handling _ := none
  indexed := []

/-- `deliver` hands the record of an event to `handleMessage`, the next two are its requests,
`finish` is its end, and `crash` an end before it. -/
inductive DeliveryAction (Consumer Number : Type)
  | deliver (consumer : Consumer) (event : MessageCreatedEvent Number)
  | indexMessage (consumer : Consumer) (result : IndexResult)
  | publishToDlq (consumer : Consumer) (acknowledged : Bool)
  | finish (consumer : Consumer)
  | crash (consumer : Consumer)

section Steps

variable [DecidableEq Consumer]

def DeliveryState.setHandling (consumer : Consumer)
    (handling : Option (MessageCreatedEvent Number × HandlerPhase Number))
    (state : DeliveryState Consumer Number) : DeliveryState Consumer Number :=
  { state with
    handling := fun other => if other = consumer then handling else state.handling other }

def deliveryStep [JsNumber Number] [DecidableEq Number] (runtime : JsRuntime)
    (state : DeliveryState Consumer Number)
    (action : DeliveryAction Consumer Number) : Option (DeliveryState Consumer Number) :=
  match action with
  | .deliver consumer event =>
    match state.handling consumer with
    | none =>
      some (state.setHandling consumer
        (some (event, startHandling runtime (some (publishJsonValue event)))))
    | some _ => none
  | .indexMessage consumer result =>
    match state.handling consumer with
    | some (event, .indexing document attempt) =>
      let indexing := indexMessage document result state.index
      some (({ state with
        index := indexing.1
        indexed := if indexing.2.isNone then state.indexed ++ [event] else state.indexed
        }).setHandling consumer (some (event, afterIndexMessage document attempt indexing.2)))
    | _ => none
  | .publishToDlq consumer acknowledged =>
    match state.handling consumer with
    | some (event, .publishingToDlq) =>
      some (state.setHandling consumer (some (event, afterPublishToDlq acknowledged)))
    | _ => none
  | .finish consumer =>
    match state.handling consumer with
    | some (_, .resolved) => some (state.setHandling consumer none)
    | some (_, .rejected) => some (state.setHandling consumer none)
    | _ => none
  | .crash consumer => some (state.setHandling consumer none)

end Steps

/-! ### What the deliveries write -/

/-- The entry of the index that an event asks for. -/
def indexEntry (runtime : JsRuntime) (event : MessageCreatedEvent Number) :
    Option (JsString × EsMessageDocument Number) :=
  (projectMessageDocument (projectMessageCreatedEvent runtime event)).map fun body =>
    (event.payload.id, body)

/-- The phase of a handler that was handed this event: what it indexes is the event's document. -/
def HandlesEvent (runtime : JsRuntime) (event : MessageCreatedEvent Number) :
    HandlerPhase Number → Prop
  | .indexing document _ => document = projectMessageCreatedEvent runtime event
  | _ => True

/-- The index is what writing entries of the events leaves, those indexed with success among
them. -/
structure DeliveryInvariant (runtime : JsRuntime) (events : List (MessageCreatedEvent Number))
    (state : DeliveryState Consumer Number) : Prop where
  written : ∃ entries, state.index = Overwrite.writeAll entries ∧
    (∀ entry ∈ entries, ∃ event ∈ events, indexEntry runtime event = some entry) ∧
    ∀ event ∈ state.indexed, ∃ entry ∈ entries, indexEntry runtime event = some entry
  handled : ∀ consumer event phase, state.handling consumer = some (event, phase) →
    event ∈ events ∧ HandlesEvent runtime event phase

theorem DeliveryInvariant.initial (runtime : JsRuntime)
    (events : List (MessageCreatedEvent Number)) :
    DeliveryInvariant runtime events (.initial : DeliveryState Consumer Number) where
  written := by
    refine ⟨[], rfl, ?_, ?_⟩
    · exact fun entry member => absurd member List.not_mem_nil
    · exact fun event member => absurd member List.not_mem_nil
  handled _ _ _ stored := nomatch stored

section Steps

variable [DecidableEq Consumer]

/-- A consumer that takes up an event of the list, or none, keeps the invariant. -/
theorem DeliveryInvariant.setHandling {runtime : JsRuntime}
    {events : List (MessageCreatedEvent Number)} {state : DeliveryState Consumer Number}
    (invariant : DeliveryInvariant runtime events state) {consumer : Consumer}
    {handling : Option (MessageCreatedEvent Number × HandlerPhase Number)}
    (handles : ∀ event phase, handling = some (event, phase) →
      event ∈ events ∧ HandlesEvent runtime event phase) :
    DeliveryInvariant runtime events (state.setHandling consumer handling) where
  written := invariant.written
  handled other event phase stored := by
    have stored : (if other = consumer then handling else state.handling other) =
      some (event, phase) := stored
    by_cases same : other = consumer
    · rw [if_pos same] at stored
      exact handles event phase stored
    · rw [if_neg same] at stored
      exact invariant.handled other event phase stored

/-- What an attempt to index leaves: the index as it was, or with the event's entry written; it
succeeds only by writing it. -/
theorem indexMessage_eq (runtime : JsRuntime) (event : MessageCreatedEvent Number)
    (result : IndexResult) (index : SearchIndex Number) :
    ((indexMessage (projectMessageCreatedEvent runtime event) result index).1 = index ∧
      (indexMessage (projectMessageCreatedEvent runtime event) result index).2.isNone = false) ∨
    ∃ entry, indexEntry runtime event = some entry ∧
      (indexMessage (projectMessageCreatedEvent runtime event) result index).1 =
        Overwrite.write entry index := by
  unfold indexMessage indexEntry
  cases projected : projectMessageDocument (projectMessageCreatedEvent runtime event) with
  | none => exact Or.inl ⟨rfl, rfl⟩
  | some body =>
    cases result with
    | succeeded => exact Or.inr ⟨_, rfl, rfl⟩
    | failed applied error =>
      cases applied with
      | true => exact Or.inr ⟨_, rfl, rfl⟩
      | false => exact Or.inl ⟨rfl, rfl⟩

omit [DecidableEq Consumer] in
/-- An attempt to index an event of the list writes its entry or nothing. -/
theorem DeliveryInvariant.attempted {runtime : JsRuntime}
    {events : List (MessageCreatedEvent Number)} {state : DeliveryState Consumer Number}
    (invariant : DeliveryInvariant runtime events state) {event : MessageCreatedEvent Number}
    (member : event ∈ events) (result : IndexResult) :
    DeliveryInvariant runtime events
      { state with
        index := (indexMessage (projectMessageCreatedEvent runtime event) result state.index).1
        indexed :=
          if (indexMessage (projectMessageCreatedEvent runtime event) result state.index).2.isNone
          then state.indexed ++ [event] else state.indexed } where
  handled := invariant.handled
  written := by
    obtain ⟨entries, index, asked, indexed⟩ := invariant.written
    dsimp only
    rcases indexMessage_eq runtime event result state.index with
      ⟨unchanged, threw⟩ | ⟨entry, isEntry, changed⟩
    · rw [unchanged, threw, if_neg Bool.false_ne_true]
      exact ⟨entries, index, asked, indexed⟩
    · have earlier : ∀ other ∈ state.indexed, ∃ found ∈ entries ++ [entry],
          indexEntry runtime other = some found := by
        intro other otherMember
        obtain ⟨found, foundMember, isFound⟩ := indexed other otherMember
        exact ⟨found, List.mem_append_left _ foundMember, isFound⟩
      refine ⟨entries ++ [entry], ?_, ?_, ?_⟩
      · rw [changed, index, Overwrite.writeAll_concat]
      · intro other otherMember
        rcases List.mem_append.mp otherMember with before | last
        · exact asked other before
        · rw [List.mem_singleton.mp last]
          exact ⟨event, member, isEntry⟩
      · intro other otherMember
        split at otherMember
        · rcases List.mem_append.mp otherMember with before | last
          · exact earlier other before
          · rw [List.mem_singleton.mp last]
            exact ⟨entry, List.mem_append_right _ List.mem_cons_self, isEntry⟩
        · exact earlier other otherMember

theorem handlesEvent_afterIndexMessage (runtime : JsRuntime) (event : MessageCreatedEvent Number)
    (attempt : Nat) (error : Option IndexError) :
    HandlesEvent runtime event
      (afterIndexMessage (projectMessageCreatedEvent runtime event) attempt error) := by
  unfold afterIndexMessage
  cases error with
  | none => trivial
  | some error =>
    dsimp only
    split
    · trivial
    · exact rfl

theorem handlesEvent_startHandling [JsNumber Number] [DecidableEq Number] {runtime : JsRuntime}
    {event : MessageCreatedEvent Number}
    (accepted : parseMessageCreatedEvent runtime (some (publishJsonValue event)) =
      .ok (.messageCreated event)) :
    HandlesEvent runtime event (startHandling runtime (some (publishJsonValue event))) := by
  rw [startHandling, accepted]
  rfl

/-- Every step keeps the invariant, as long as only events of the list are delivered. -/
theorem deliveryStep_invariant [JsNumber Number] [DecidableEq Number] {runtime : JsRuntime}
    {events : List (MessageCreatedEvent Number)}
    (accepted : ∀ event ∈ events, parseMessageCreatedEvent runtime (some (publishJsonValue event)) =
      .ok (.messageCreated event))
    {state next : DeliveryState Consumer Number} {action : DeliveryAction Consumer Number}
    (invariant : DeliveryInvariant runtime events state)
    (delivers : ∀ consumer event, action = .deliver consumer event → event ∈ events)
    (moved : deliveryStep runtime state action = some next) :
    DeliveryInvariant runtime events next := by
  cases action with
  | deliver consumer event =>
    have member := delivers consumer event rfl
    simp only [deliveryStep] at moved
    split at moved
    · rw [← Option.some.inj moved]
      refine invariant.setHandling fun other phase same => ?_
      rw [Option.some_inj, Prod.mk.injEq] at same
      rw [← same.1, ← same.2]
      exact ⟨member, handlesEvent_startHandling (accepted event member)⟩
    · exact nomatch moved
  | indexMessage consumer result =>
    simp only [deliveryStep] at moved
    split at moved
    · rename_i event document attempt was
      obtain ⟨member, handles⟩ := invariant.handled consumer event _ was
      have isDocument : document = projectMessageCreatedEvent runtime event := handles
      subst isDocument
      rw [← Option.some.inj moved]
      refine (invariant.attempted member result).setHandling fun other phase same => ?_
      rw [Option.some_inj, Prod.mk.injEq] at same
      rw [← same.1, ← same.2]
      exact ⟨member, handlesEvent_afterIndexMessage runtime event attempt _⟩
    · exact nomatch moved
  | publishToDlq consumer acknowledged =>
    simp only [deliveryStep] at moved
    split at moved
    · rename_i event was
      rw [← Option.some.inj moved]
      refine invariant.setHandling fun other phase same => ?_
      rw [Option.some_inj, Prod.mk.injEq] at same
      rw [← same.1, ← same.2, afterPublishToDlq]
      refine ⟨(invariant.handled consumer event _ was).1, ?_⟩
      cases acknowledged with
      | true => trivial
      | false => trivial
    · exact nomatch moved
  | finish consumer =>
    simp only [deliveryStep] at moved
    split at moved
    · rw [← Option.some.inj moved]
      exact invariant.setHandling fun _ _ same => nomatch same
    · rw [← Option.some.inj moved]
      exact invariant.setHandling fun _ _ same => nomatch same
    · exact nomatch moved
  | crash consumer =>
    rw [← Option.some.inj moved]
    exact invariant.setHandling fun _ _ same => nomatch same

end Steps

/-! ### One event per message -/

variable [JsNumber Number] {saving : Saving Number}

/-- Two committed pairs whose rows announce the same message id are the same pair. -/
theorem SavedPairs.eq_of_messageId {store : MessageStore Call Instance Number}
    (saved : SavedPairs saving store)
    {first second : CommittedPair Call Instance Number} (member : first ∈ store.committed)
    (otherMember : second ∈ store.committed)
    (same : first.row.payload.payload.id = second.row.payload.payload.id) : first = second := by
  have distinct := store.messages.distinct
  rw [saved.messageKeys] at distinct
  refine List.inj_on_of_nodup_map distinct member otherMember ?_
  obtain ⟨execution, inserts, isFirst⟩ := saved.built first member
  obtain ⟨other, otherInserts, isSecond⟩ := saved.built second otherMember
  rw [isFirst, isSecond] at same ⊢
  exact toString_injective same

/-- What a committed row announces is an event of the current format. -/
theorem SavedPairs.isCurrentEvent {store : MessageStore Call Instance Number}
    (saved : SavedPairs saving store)
    {pair : CommittedPair Call Instance Number} (member : pair ∈ store.committed)
    (runtime : JsRuntime)
    (plain : ∀ metadata, pair.row.payload.payload.metadata = some metadata → metadata.Plain) :
    IsCurrentEvent runtime pair.row.payload := by
  obtain ⟨execution, inserts, same⟩ := saved.built pair member
  have dated : runtime.date pair.row.payload.payload.timestamp = some execution.now := by
    rw [same]
    exact date_toISOString runtime execution.now
  refine ⟨?_, ?_, ?_, plain⟩
  · rw [same]
    rfl
  · rw [same]
    rfl
  · rw [dated]
    rfl

/-! ### Convergence -/

omit [JsNumber Number] in
/-- The entries of one set of events that a run wrote. -/
theorem DeliveryInvariant.writes {runtime : JsRuntime} {events : List (MessageCreatedEvent Number)}
    {state : DeliveryState Consumer Number} (invariant : DeliveryInvariant runtime events state)
    (all : ∀ event ∈ events, event ∈ state.indexed) :
    ∃ entries, state.index = Overwrite.writeAll entries ∧
      ∀ entry, entry ∈ entries ↔ ∃ event ∈ events, indexEntry runtime event = some entry := by
  obtain ⟨entries, index, asked, indexed⟩ := invariant.written
  refine ⟨entries, index, fun entry => ⟨asked entry, ?_⟩⟩
  rintro ⟨event, member, isEntry⟩
  obtain ⟨other, otherMember, isOther⟩ := indexed event (all event member)
  rw [isEntry, Option.some_inj] at isOther
  exact isOther ▸ otherMember

/-- A message has one event, so the entries of committed events agree on every id. -/
theorem SavedPairs.consistent {store : MessageStore Call Instance Number}
    (saved : SavedPairs saving store)
    {runtime : JsRuntime} {events : List (MessageCreatedEvent Number)}
    (committed : ∀ event ∈ events, ∃ pair ∈ store.committed, pair.row.payload = event)
    {entries : List (JsString × EsMessageDocument Number)}
    (asked : ∀ entry ∈ entries, ∃ event ∈ events, indexEntry runtime event = some entry) :
    Overwrite.Consistent entries := by
  intro entry member other otherMember same
  obtain ⟨event, eventMember, isEntry⟩ := asked entry member
  obtain ⟨next, nextMember, isOther⟩ := asked other otherMember
  obtain ⟨pair, pairMember, isEvent⟩ := committed event eventMember
  obtain ⟨nextPair, nextPairMember, isNext⟩ := committed next nextMember
  obtain ⟨document, _, isDocument⟩ := Option.map_eq_some_iff.mp isEntry
  obtain ⟨otherDocument, _, isOtherDocument⟩ := Option.map_eq_some_iff.mp isOther
  have samePair : pair = nextPair := by
    refine saved.eq_of_messageId pairMember nextPairMember ?_
    rw [← isDocument, ← isOtherDocument] at same
    rw [isEvent, isNext]
    exact same
  rw [← isEvent, samePair, isNext, isOther, Option.some_inj] at isEntry
  rw [isEntry]

/-- What holds after a run that delivers only events of the list. -/
theorem DeliveryInvariant.run [DecidableEq Number] [DecidableEq Consumer]
    {runtime : JsRuntime} {events : List (MessageCreatedEvent Number)}
    (accepted : ∀ event ∈ events, parseMessageCreatedEvent runtime (some (publishJsonValue event)) =
      .ok (.messageCreated event))
    {actions : List (DeliveryAction Consumer Number)} {state : DeliveryState Consumer Number}
    (reached : Transition.run (deliveryStep runtime) .initial actions = some state)
    (delivers : ∀ consumer event, .deliver consumer event ∈ actions → event ∈ events) :
    DeliveryInvariant runtime events state := by
  refine Transition.run_invariant_along
    (fun _ _ _ holds meets moved => deliveryStep_invariant accepted holds meets moved)
    (.initial runtime events) (Transition.along_of_forall ?_ _) reached
  rintro action member _ consumer event rfl
  exact delivers consumer event member

variable [DecidableEq Call] [DecidableEq Instance] [DecidableEq Consumer]

/-- Two runs that deliver the same events of committed outbox rows, each of which was indexed with
success in both, end with the same index: for each event the document projected from it, under its
message id, and no other document. -/
theorem index_converges [LawfulJsNumber Number] [DecidableEq Number]
    {config : PublisherConfig} {actions : List (ExecuteAction Call Instance Number)}
    {store : MessageStore Call Instance Number}
    (reached : Transition.run (executeStep saving config) .initial actions = some store)
    {runtime : JsRuntime} {events : List (MessageCreatedEvent Number)}
    (committed : ∀ event ∈ events, ∃ pair ∈ store.committed, pair.row.payload = event)
    (plain : ∀ event ∈ events, ∀ metadata, event.payload.metadata = some metadata → metadata.Plain)
    (accepted : ∀ event ∈ events, ∃ parsed : MessageCreatedEvent Number,
      parseMessageCreatedEvent runtime (some (publishJsonValue event)) =
        .ok (.messageCreated parsed))
    {firstActions secondActions : List (DeliveryAction Consumer Number)}
    {first second : DeliveryState Consumer Number}
    (firstReached : Transition.run (deliveryStep runtime) .initial firstActions = some first)
    (secondReached : Transition.run (deliveryStep runtime) .initial secondActions = some second)
    (firstDelivers : ∀ consumer event, .deliver consumer event ∈ firstActions → event ∈ events)
    (secondDelivers : ∀ consumer event, .deliver consumer event ∈ secondActions → event ∈ events)
    (firstIndexes : ∀ event ∈ events, event ∈ first.indexed)
    (secondIndexes : ∀ event ∈ events, event ∈ second.indexed) :
    first.index = second.index ∧
      (∀ event ∈ events, ∃ document,
        projectMessageDocument (projectMessageCreatedEvent runtime event) = some document ∧
          first.index event.payload.id = some document) ∧
      ∀ id, first.index id ≠ none → ∃ event ∈ events, event.payload.id = id := by
  have pairs := pair_invariant reached
  have current : ∀ event ∈ events, IsCurrentEvent runtime event := by
    intro event member
    obtain ⟨pair, pairMember, same⟩ := committed event member
    have holds := pairs.isCurrentEvent pairMember runtime (same ▸ plain event member)
    exact same ▸ holds
  have parsed : ∀ event ∈ events,
      parseMessageCreatedEvent runtime (some (publishJsonValue event)) =
        .ok (.messageCreated event) := by
    intro event member
    obtain ⟨other, isOther⟩ := accepted event member
    rw [isOther, eq_of_parse_publishJsonValue (current event member) isOther]
  obtain ⟨entries, firstIndex, firstEntries⟩ :=
    (DeliveryInvariant.run parsed firstReached firstDelivers).writes firstIndexes
  obtain ⟨others, secondIndex, secondEntries⟩ :=
    (DeliveryInvariant.run parsed secondReached secondDelivers).writes secondIndexes
  have consistent : Overwrite.Consistent entries :=
    pairs.consistent committed fun entry => (firstEntries entry).mp
  refine ⟨?_, fun event member => ?_, fun id present => ?_⟩
  · rw [firstIndex, secondIndex]
    refine Overwrite.writeAll_eq_of_mem_iff consistent fun entry => ?_
    rw [firstEntries, secondEntries]
  · obtain ⟨document, isDocument⟩ := Option.isSome_iff_exists.mp
      (isSome_projectMessageDocument (current event member).dated)
    refine ⟨document, isDocument, ?_⟩
    rw [firstIndex, Overwrite.writeAll_eq_some consistent, firstEntries]
    refine ⟨event, member, ?_⟩
    rw [indexEntry, isDocument, Option.map_some]
  · rw [firstIndex] at present
    obtain ⟨document, stored⟩ := Option.ne_none_iff_exists'.mp present
    obtain ⟨event, member, isEntry⟩ := (firstEntries _).mp (Overwrite.mem_of_writeAll stored)
    obtain ⟨_, _, same⟩ := Option.map_eq_some_iff.mp isEntry
    exact ⟨event, member, (Prod.mk.inj same).1⟩

/-! ### Two runs with two events -/

/-- The event of a message created with this metadata. -/
def createdEvent (metadata : Option (Json Nat)) (inserts : Inserts) : MessageCreatedEvent Nat :=
  (savedOutboxInput .plain ((⟨exampleCommand metadata, exampleDate, .callback⟩ :
    Execution Nat).outboxInput inserts)).payload

def smsMetadata : Json Nat := .object [(jsString "channel", .string (jsString "sms"))]

def smsEvent : MessageCreatedEvent Nat :=
  createdEvent (some smsMetadata) ⟨1, 3, jsString "event-1"⟩

def plainEvent : MessageCreatedEvent Nat := createdEvent none ⟨2, 4, jsString "event-2"⟩

/-- Both messages are created at once. -/
def twoCreates : List (ExecuteAction Bool Nat Nat) :=
  [.start true (exampleCommand (some smsMetadata)) exampleDate,
    .start false (exampleCommand none) exampleDate, .insertMessage true 1, .insertMessage false 2,
    .insertOutboxEvent true 3 (jsString "event-1"), .insertOutboxEvent false 4 (jsString "event-2"),
    .commit true, .commit false]

def timeoutError : IndexError := ⟨true, some (jsString "TimeoutError"), none⟩

/-- The events of the two messages. -/
def twoEvents : List (MessageCreatedEvent Nat) := [smsEvent, plainEvent]

/-- An event is delivered and indexed. -/
def deliverOnce (event : MessageCreatedEvent Nat) : List (DeliveryAction Bool Nat) :=
  [.deliver true event, .indexMessage true .succeeded, .finish true]

/-- Two consumers are handed the first event; one crashes after a request that was applied though
it failed, the other needs a second attempt. -/
def deliverTwice : List (DeliveryAction Bool Nat) :=
  [.deliver false smsEvent, .deliver true smsEvent,
    .indexMessage false (.failed true timeoutError), .crash false,
    .indexMessage true (.failed false timeoutError), .indexMessage true .succeeded, .finish true]

def redelivered : List (DeliveryAction Bool Nat) := deliverTwice ++ deliverOnce plainEvent

def deliveredReversed : List (DeliveryAction Bool Nat) :=
  deliverOnce plainEvent ++ deliverOnce smsEvent

theorem plain_createdEvent {metadata : Option (Json Nat)} {inserts : Inserts}
    (plain : ∀ value, metadata = some value → value.Plain) (saved : Json Nat)
    (same : (createdEvent metadata inserts).payload.metadata = some saved) : saved.Plain :=
  plain_savedValue plain saved same

theorem parse_createdEvent {metadata : Option (Json Nat)} {inserts : Inserts}
    (plain : ∀ value, metadata = some value → value.Plain)
    (isRecord : isAbsentOrRecord (metadata.bind (savedValue .plain)) = true) :
    parseMessageCreatedEvent isoRuntime
        (some (publishJsonValue (createdEvent metadata inserts))) =
      .ok (.messageCreated (createdEvent metadata inserts)) := by
  have current : IsCurrentEvent isoRuntime (createdEvent metadata inserts) := by
    refine ⟨rfl, rfl, ?_, plain_createdEvent plain⟩
    have dated : isoRuntime.date (createdEvent metadata inserts).payload.timestamp =
        some exampleDate := date_toISOString isoRuntime exampleDate
    rw [dated]
    rfl
  exact (parse_publishJsonValue current).trans (if_pos isRecord)

theorem plain_smsMetadata : ∀ value, some smsMetadata = some value → value.Plain := by
  intro value same
  rw [← Option.some.inj same, smsMetadata, Json.Plain]
  exact ⟨List.nodup_singleton _, trivial, trivial⟩

theorem parse_twoEvents : ∀ event ∈ twoEvents,
    parseMessageCreatedEvent isoRuntime (some (publishJsonValue event)) =
      .ok (.messageCreated event) := by
  intro event member
  rcases List.mem_pair.mp member with rfl | rfl
  · exact parse_createdEvent plain_smsMetadata rfl
  · exact parse_createdEvent (fun value same => by cases same) rfl

theorem plain_twoEvents (event : MessageCreatedEvent Nat) (member : event ∈ twoEvents)
    (saved : Json Nat) (same : event.payload.metadata = some saved) : saved.Plain := by
  rcases List.mem_pair.mp member with rfl | rfl
  · exact plain_createdEvent plain_smsMetadata saved same
  · cases same

/-- Delivering an event makes its consumer index its document. -/
theorem deliver_parsed {event : MessageCreatedEvent Nat}
    (parsed : parseMessageCreatedEvent isoRuntime (some (publishJsonValue event)) =
      .ok (.messageCreated event)) {state : DeliveryState Bool Nat} {consumer : Bool}
    (free : state.handling consumer = none) :
    deliveryStep isoRuntime state (.deliver consumer event) =
      some (state.setHandling consumer
        (some (event, .indexing (projectMessageCreatedEvent isoRuntime event) 1))) := by
  simp only [deliveryStep, free, startHandling, parsed]

theorem deliverOnce_reached {event : MessageCreatedEvent Nat} (member : event ∈ twoEvents)
    {state : DeliveryState Bool Nat} (free : state.handling true = none) :
    ∃ next, Transition.run (deliveryStep isoRuntime) state (deliverOnce event) = some next ∧
      next.handling true = none ∧ next.indexed = state.indexed ++ [event] := by
  rw [deliverOnce, Transition.run, deliver_parsed (parse_twoEvents event member) free,
    Option.bind_some]
  rcases List.mem_pair.mp member with rfl | rfl
  · exact ⟨_, rfl, rfl, rfl⟩
  · exact ⟨_, rfl, rfl, rfl⟩

theorem deliverTwice_reached :
    ∃ next, Transition.run (deliveryStep isoRuntime) .initial deliverTwice = some next ∧
      next.handling true = none ∧ next.indexed = [smsEvent] := by
  have parsed := parse_twoEvents smsEvent List.mem_cons_self
  rw [deliverTwice, Transition.run, deliver_parsed parsed rfl, Option.bind_some, Transition.run,
    deliver_parsed parsed rfl, Option.bind_some]
  exact ⟨_, rfl, rfl, rfl⟩

theorem redelivered_reached : ∃ state,
    Transition.run (deliveryStep isoRuntime) .initial redelivered = some state ∧
      state.indexed = [smsEvent, plainEvent] := by
  obtain ⟨middle, reached, free, indexed⟩ := deliverTwice_reached
  obtain ⟨last, followed, _, isLast⟩ :=
    deliverOnce_reached (List.mem_cons_of_mem _ (List.mem_singleton_self plainEvent)) free
  refine ⟨last, ?_, ?_⟩
  · rw [redelivered, Transition.run_append, reached, Option.bind_some, followed]
  · rw [isLast, indexed]
    rfl

theorem deliveredReversed_reached : ∃ state,
    Transition.run (deliveryStep isoRuntime) .initial deliveredReversed = some state ∧
      state.indexed = [plainEvent, smsEvent] := by
  obtain ⟨middle, reached, free, indexed⟩ :=
    @deliverOnce_reached plainEvent
      (List.mem_cons_of_mem _ (List.mem_singleton_self plainEvent)) .initial rfl
  obtain ⟨last, followed, _, isLast⟩ := deliverOnce_reached List.mem_cons_self free
  refine ⟨last, ?_, ?_⟩
  · rw [deliveredReversed, Transition.run_append, reached, Option.bind_some, followed]
  · rw [isLast, indexed]
    rfl

/-- The two orders, one with a redelivery, end with the same index, which has both messages. -/
theorem index_converges_redelivered :
    ∃ first second : DeliveryState Bool Nat,
      Transition.run (deliveryStep isoRuntime) .initial redelivered = some first ∧
        Transition.run (deliveryStep isoRuntime) .initial deliveredReversed = some second ∧
          first.index = second.index ∧
            ∀ event ∈ twoEvents, (first.index event.payload.id).isSome = true := by
  obtain ⟨first, firstReached, firstIndexed⟩ := redelivered_reached
  obtain ⟨second, secondReached, secondIndexed⟩ := deliveredReversed_reached
  obtain ⟨store, reached, committed⟩ : ∃ store : MessageStore Bool Nat Nat,
      Transition.run (executeStep .plain .singleAttempt) .initial twoCreates = some store ∧
        store.committed.map (·.row.payload) = twoEvents :=
    ⟨_, rfl, rfl⟩
  have delivers : ∀ consumer event,
      .deliver consumer event ∈ redelivered ∨ .deliver consumer event ∈ deliveredReversed →
        event ∈ twoEvents := by
    intro consumer event member
    simp only [redelivered, deliveredReversed, deliverTwice, deliverOnce, List.cons_append,
      List.nil_append, List.mem_cons, List.not_mem_nil, or_false, DeliveryAction.deliver.injEq,
      reduceCtorEq, false_or] at member
    rw [twoEvents, List.mem_pair]
    tauto
  obtain ⟨same, present, _⟩ := index_converges reached
    (fun event member => List.mem_map.mp (committed ▸ member)) plain_twoEvents
    (fun event member => ⟨event, parse_twoEvents event member⟩) firstReached secondReached
    (fun consumer event member => delivers consumer event (Or.inl member))
    (fun consumer event member => delivers consumer event (Or.inr member))
    (fun event member => firstIndexed ▸ member)
    (fun event member => secondIndexed ▸ List.mem_pair.mpr (List.mem_pair.mp member).symm)
  refine ⟨first, second, firstReached, secondReached, same, fun event member => ?_⟩
  obtain ⟨document, _, stored⟩ := present event member
  rw [stored]
  rfl

end MessageManagement
