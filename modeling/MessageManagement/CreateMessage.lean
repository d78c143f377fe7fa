/-
This file models `CreateMessageService.execute`: any number of calls, each
running its callback in a MongoDB transaction that may be aborted and run again,
fail for good, or lose the answer of its commit and commit again.

Both writes of a transaction take effect together or not at all, at the moment
its commit is applied. What they write are the documents that Mongoose saves,
while the message that `execute` returns is mapped from the one in memory. A call
whose commit keeps failing rejects in the end, and what became of the commit it
does not know.

The pairs of documents committed so far are recorded in the order of their
commits; no step reads the record. What the pairs are holds in every run. A call
may return another message than the one it committed, or reject with a pair
committed, and the last theorem says when neither is the case.
-/

import MessageManagement.Message
import MessageManagement.OutboxLifecycle
import MessageManagement.SavedValues

namespace MessageManagement

variable {Call Instance Number : Type}

/-! ### The documents of a call -/

structure CreateMessageCommand (Number : Type) where
  conversationId : JsString
  senderId : JsString
  content : JsString
  correlationId : JsString
  metadata : Option (Json Number)

/-- A document of `messages`, apart from its `_id`; also the input of the repository's
`create`. -/
structure MessageEntity (Number : Type) where
  conversationId : JsString
  senderId : JsString
  content : JsString
  timestamp : JsDate
  metadata : Option (Json Number)

def mapMessageDocument (id : ObjectId) (document : MessageEntity Number) : Message Number where
  id := id.toString
  conversationId := document.conversationId
  senderId := document.senderId
  content := document.content
  timestamp := document.timestamp
  metadata := document.metadata

def CreateMessageCommand.document (command : CreateMessageCommand Number) (now : JsDate) :
    MessageEntity Number where
  conversationId := command.conversationId
  senderId := command.senderId
  content := command.content
  timestamp := now
  metadata := command.metadata

/-- The row `execute` asks the outbox repository for. -/
def createMessageOutboxInput (event : MessageCreatedEvent Number) (message : Message Number)
    (now : JsDate) : CreateOutboxEventInput (MessageCreatedEvent Number) where
  eventId := event.eventId
  eventType := event.eventType
  eventVersion := event.eventVersion
  topic := MESSAGE_CREATED_TOPIC
  key := message.conversationId
  payload := event
  nextAttemptAt := now.ms
  createdAt := now.ms

section Saved

variable [JsNumber Number] (saving : Saving Number)

/-- The message document as it is saved. -/
def MessageEntity.saved (document : MessageEntity Number) : MessageEntity Number where
  conversationId := toWellFormed document.conversationId
  senderId := toWellFormed document.senderId
  content := toWellFormed document.content
  timestamp := document.timestamp
  metadata := document.metadata.bind (savedValue saving)

/-- The event as it is saved in the payload of a row. Types, dates, the event id and the message id
are ASCII, and none of its objects but the metadata is empty or saving. -/
def MessageCreatedEvent.saved (event : MessageCreatedEvent Number) : MessageCreatedEvent Number :=
  { event with
    correlationId := toWellFormed event.correlationId
    payload :=
      { event.payload with
        conversationId := toWellFormed event.payload.conversationId
        senderId := toWellFormed event.payload.senderId
        content := toWellFormed event.payload.content
        metadata := event.payload.metadata.bind (savedValue saving) } }

def savedOutboxInput (input : CreateOutboxEventInput (MessageCreatedEvent Number)) :
    CreateOutboxEventInput (MessageCreatedEvent Number) :=
  { input with key := toWellFormed input.key, payload := input.payload.saved saving }

/-- The texts of the command are well-formed, and its metadata is saved as it is. -/
def CreateMessageCommand.isSavedAsIs (command : CreateMessageCommand Number) : Bool :=
  isWellFormed command.conversationId && isWellFormed command.senderId &&
    isWellFormed command.content && isMetadataSavedAsIs saving command.metadata

end Saved

/-! ### The calls -/

/-- What one run of the callback drew: the `_id`s of its two documents and the event id. -/
structure Inserts where
  messageId : ObjectId
  rowId : ObjectId
  eventId : JsString

/-- Where a call is: in a run of its callback before or after the message insert, behind it with
the commit outstanding (applied or not), or done. A call that rejected may have had its commit
applied. -/
inductive ExecutePhase (Number : Type)
  | callback
  | messageInserted (messageId : ObjectId)
  | committing (inserts : Inserts) (applied : Bool)
  | resolved (inserts : Inserts) (returned : Message Number)
  | rejected (applied : Option Inserts)

def ExecutePhase.isResolved : ExecutePhase Number → Bool
  | .resolved _ _ => true
  | _ => false

def ExecutePhase.isRejected : ExecutePhase Number → Bool
  | .rejected _ => true
  | _ => false

def ExecutePhase.isDone (phase : ExecutePhase Number) : Bool :=
  phase.isResolved || phase.isRejected

/-- A call of `execute`. `now` is read once, before the transaction starts. -/
structure Execution (Number : Type) where
  command : CreateMessageCommand Number
  now : JsDate
  phase : ExecutePhase Number

namespace Execution

/-- What the message repository returns inside the callback: the document in memory, mapped. -/
def message (execution : Execution Number) (messageId : ObjectId) : Message Number :=
  mapMessageDocument messageId (execution.command.document execution.now)

def outboxInput (execution : Execution Number) (inserts : Inserts) :
    CreateOutboxEventInput (MessageCreatedEvent Number) :=
  createMessageOutboxInput
    (buildMessageCreatedEvent inserts.eventId (execution.message inserts.messageId)
      execution.command.correlationId execution.now)
    (execution.message inserts.messageId) execution.now

/-- The inserts whose commit was applied. -/
def applied (execution : Execution Number) : Option Inserts :=
  match execution.phase with
  | .committing inserts true => some inserts
  | .resolved inserts _ => some inserts
  | .rejected applied => applied
  | _ => none

end Execution

/-- The two documents of one applied commit, as they were saved. -/
structure CommittedPair (Call Instance Number : Type) where
  call : Call
  messageId : ObjectId
  message : MessageEntity Number
  rowId : ObjectId
  row : OutboxEventEntity Instance (MessageCreatedEvent Number)

def Execution.pair [JsNumber Number] (saving : Saving Number) (call : Call)
    (execution : Execution Number) (inserts : Inserts) : CommittedPair Call Instance Number where
  call
  messageId := inserts.messageId
  message := (execution.command.document execution.now).saved saving
  rowId := inserts.rowId
  row := (savedOutboxInput saving (execution.outboxInput inserts)).entity

/-- The two collections, the calls made so far, and the pairs committed so far. -/
structure MessageStore (Call Instance Number : Type) where
  messages : Collection ObjectId (MessageEntity Number)
  outbox : OutboxCollection Instance (MessageCreatedEvent Number)
  calls : Call → Option (Execution Number)
  committed : List (CommittedPair Call Instance Number)

namespace MessageStore

def initial : MessageStore Call Instance Number where
  messages := .empty
  outbox := .empty
  calls _ := none
  committed := []

def setCall [DecidableEq Call] (call : Call) (execution : Execution Number)
    (store : MessageStore Call Instance Number) : MessageStore Call Instance Number :=
  { store with calls := fun other => if other = call then some execution else store.calls other }

/-- Apply both writes of a transaction. The `_id`s are fresh ObjectIds. -/
def commit [JsNumber Number] (saving : Saving Number) (call : Call)
    (execution : Execution Number) (inserts : Inserts)
    (store : MessageStore Call Instance Number) : Option (MessageStore Call Instance Number) :=
  if freshMessage : inserts.messageId ∉ store.messages.keys then
    if freshRow : inserts.rowId ∉ store.outbox.keys then
      some { store with
        messages := store.messages.insert inserts.messageId
          ((execution.command.document execution.now).saved saving) freshMessage
        outbox := store.outbox.insert inserts.rowId
          (savedOutboxInput saving (execution.outboxInput inserts)).entity freshRow
        committed := store.committed ++ [execution.pair saving call inserts] }
    else none
  else none

end MessageStore

/-! ### The steps -/

/-- `abort` is a transient error anywhere before a commit was applied, after which
`session.withTransaction` runs the callback again; `fail` is any other error, after which it
rejects. A commit whose result is unknown may have been applied or not, and is sent again until
`withTransaction` gives up on it, which is a `fail` as well. `maintain` is any other operation on
the outbox. -/
inductive ExecuteAction (Call Instance Number : Type)
  | start (call : Call) (command : CreateMessageCommand Number) (now : JsDate)
  | insertMessage (call : Call) (messageId : ObjectId)
  | insertOutboxEvent (call : Call) (rowId : ObjectId) (eventId : JsString)
  | commit (call : Call)
  | commitUnknown (call : Call) (applies : Bool)
  | abort (call : Call)
  | fail (call : Call)
  | maintain (action : OutboxAction Instance (MessageCreatedEvent Number))

variable [JsNumber Number] [DecidableEq Call] [DecidableEq Instance]
  {saving : Saving Number}

def executeStep (saving : Saving Number) (config : PublisherConfig)
    (store : MessageStore Call Instance Number) (action : ExecuteAction Call Instance Number) :
    Option (MessageStore Call Instance Number) :=
  match action with
  | .start call command now =>
    match store.calls call with
    | none => some (store.setCall call ⟨command, now, .callback⟩)
    | some _ => none
  | .insertMessage call messageId =>
    match store.calls call with
    | some ⟨command, now, .callback⟩ =>
      some (store.setCall call ⟨command, now, .messageInserted messageId⟩)
    | _ => none
  | .insertOutboxEvent call rowId eventId =>
    match store.calls call with
    | some ⟨command, now, .messageInserted messageId⟩ =>
      some (store.setCall call ⟨command, now, .committing ⟨messageId, rowId, eventId⟩ false⟩)
    | _ => none
  | .commit call =>
    match store.calls call with
    | some ⟨command, now, .committing inserts applied⟩ =>
      (if applied then some store
        else store.commit saving call ⟨command, now, .committing inserts applied⟩ inserts).map
        (·.setCall call ⟨command, now, .resolved inserts
          (mapMessageDocument inserts.messageId (command.document now))⟩)
    | _ => none
  | .commitUnknown call applies =>
    match store.calls call with
    | some ⟨command, now, .committing inserts applied⟩ =>
      if applies && !applied then
        (store.commit saving call ⟨command, now, .committing inserts applied⟩ inserts).map
          (·.setCall call ⟨command, now, .committing inserts true⟩)
      else some store
    | _ => none
  | .abort call =>
    match store.calls call with
    | some ⟨command, now, .callback⟩ => some (store.setCall call ⟨command, now, .callback⟩)
    | some ⟨command, now, .messageInserted _⟩ => some (store.setCall call ⟨command, now, .callback⟩)
    | some ⟨command, now, .committing _ false⟩ =>
      some (store.setCall call ⟨command, now, .callback⟩)
    | _ => none
  | .fail call =>
    match store.calls call with
    | some ⟨command, now, .callback⟩ => some (store.setCall call ⟨command, now, .rejected none⟩)
    | some ⟨command, now, .messageInserted _⟩ =>
      some (store.setCall call ⟨command, now, .rejected none⟩)
    | some ⟨command, now, .committing inserts applied⟩ =>
      some (store.setCall call
        ⟨command, now, .rejected (if applied then some inserts else none)⟩)
    | _ => none
  | .maintain action =>
    match action with
    | .create _ _ => none
    | action => (perform config action store.outbox).map fun outbox => { store with outbox }

/-! ### What a step can do -/

/-- The pairs a call has committed. -/
def pairsOf (saving : Saving Number) (call : Call) :
    Option (Execution Number) → List (CommittedPair Call Instance Number)
  | none => []
  | some execution => (execution.applied.map (execution.pair saving call)).toList

/-- A call that resolved returned what its callback mapped. -/
def Execution.ReturnsMapped (execution : Execution Number) : Prop :=
  ∀ inserts returned, execution.phase = .resolved inserts returned →
    returned = execution.message inserts.messageId

/-- The call whose callback failed, or that gives up on its commit. -/
def ExecuteAction.failing : ExecuteAction Call Instance Number → Option Call
  | .fail call => some call
  | _ => none

/-- What a step does, by the one thing it does: a call starts, goes on without writing, has its
commit applied or fails, or another operation runs on the outbox. -/
inductive ExecuteMove (saving : Saving Number) (config : PublisherConfig)
    (store : MessageStore Call Instance Number) :
    ExecuteAction Call Instance Number → MessageStore Call Instance Number → Prop
  | unchanged {action} (goesOn : action.failing = none) :
      ExecuteMove saving config store action store
  | started (call command now) (fresh : store.calls call = none) :
      ExecuteMove saving config store (.start call command now)
        (store.setCall call ⟨command, now, .callback⟩)
  | moved {action} (call) {before : Execution Number} (phase) (goesOn : action.failing = none)
      (was : store.calls call = some before) (live : before.phase.isDone = false)
      (same : (⟨before.command, before.now, phase⟩ : Execution Number).applied = before.applied)
      (returns : (⟨before.command, before.now, phase⟩ : Execution Number).ReturnsMapped)
      (kept : phase.isRejected = false) :
      ExecuteMove saving config store action
        (store.setCall call ⟨before.command, before.now, phase⟩)
  | committed {action} (call) {before : Execution Number} (phase) {inserts written}
      (goesOn : action.failing = none) (was : store.calls call = some before)
      (live : before.phase.isDone = false) (outstanding : before.applied = none)
      (wrote : store.commit saving call before inserts = some written)
      (becomes : (⟨before.command, before.now, phase⟩ : Execution Number).applied = some inserts)
      (returns : (⟨before.command, before.now, phase⟩ : Execution Number).ReturnsMapped)
      (kept : phase.isRejected = false) :
      ExecuteMove saving config store action
        (written.setCall call ⟨before.command, before.now, phase⟩)
  | failed (call) {before : Execution Number} (was : store.calls call = some before)
      (live : before.phase.isDone = false) :
      ExecuteMove saving config store (.fail call)
        (store.setCall call ⟨before.command, before.now, .rejected before.applied⟩)
  | maintained (write outbox) (inserts : write.inserted = [])
      (performed : perform config write store.outbox = some outbox) :
      ExecuteMove saving config store (.maintain write) { store with outbox }

omit [JsNumber Number] in
theorem returnsMapped_of_unresolved {execution : Execution Number}
    (unresolved : execution.phase.isResolved = false) : execution.ReturnsMapped := by
  intro inserts returned same
  rw [same] at unresolved
  cases unresolved

theorem executeStep_move {config : PublisherConfig} {store next : MessageStore Call Instance Number}
    {action : ExecuteAction Call Instance Number}
    (moved : executeStep saving config store action = some next) :
    ExecuteMove saving config store action next := by
  cases action with
  | start call command now =>
    simp only [executeStep] at moved
    split at moved
    · rename_i fresh
      exact Option.some.inj moved ▸ .started call command now fresh
    · cases moved
  | insertMessage call messageId =>
    simp only [executeStep] at moved
    split at moved
    · rename_i was
      exact Option.some.inj moved ▸
        .moved call _ rfl was rfl rfl (returnsMapped_of_unresolved rfl) rfl
    · cases moved
  | insertOutboxEvent call rowId eventId =>
    simp only [executeStep] at moved
    split at moved
    · rename_i was
      exact Option.some.inj moved ▸
        .moved call _ rfl was rfl rfl (returnsMapped_of_unresolved rfl) rfl
    · cases moved
  | commit call =>
    simp only [executeStep] at moved
    split at moved
    · rename_i command now inserts applied was
      obtain ⟨written, wrote, rfl⟩ := Option.map_eq_some_iff.mp moved
      have returns : (⟨command, now, .resolved inserts
          (mapMessageDocument inserts.messageId (command.document now))⟩ :
            Execution Number).ReturnsMapped := by
        intro drawn returned same
        rw [ExecutePhase.resolved.injEq] at same
        rw [← same.1, ← same.2]
        rfl
      cases applied with
      | true =>
        rw [if_pos rfl, Option.some_inj] at wrote
        rw [← wrote]
        exact .moved call _ rfl was rfl rfl returns rfl
      | false =>
        rw [if_neg Bool.false_ne_true] at wrote
        exact .committed call _ rfl was rfl rfl wrote rfl returns rfl
    · cases moved
  | commitUnknown call applies =>
    simp only [executeStep] at moved
    split at moved
    · rename_i command now inserts applied was
      split at moved
      · rename_i newly
        rw [Bool.and_eq_true, Bool.not_eq_true'] at newly
        obtain ⟨written, wrote, rfl⟩ := Option.map_eq_some_iff.mp moved
        rw [newly.2] at was wrote
        exact .committed call _ rfl was rfl rfl wrote rfl (returnsMapped_of_unresolved rfl) rfl
      · exact Option.some.inj moved ▸ .unchanged rfl
    · cases moved
  | abort call =>
    simp only [executeStep] at moved
    split at moved
    · rename_i was
      exact Option.some.inj moved ▸
        .moved call _ rfl was rfl rfl (returnsMapped_of_unresolved rfl) rfl
    · rename_i was
      exact Option.some.inj moved ▸
        .moved call _ rfl was rfl rfl (returnsMapped_of_unresolved rfl) rfl
    · rename_i was
      exact Option.some.inj moved ▸
        .moved call _ rfl was rfl rfl (returnsMapped_of_unresolved rfl) rfl
    · cases moved
  | fail call =>
    simp only [executeStep] at moved
    split at moved
    · rename_i was
      exact Option.some.inj moved ▸ .failed call was rfl
    · rename_i was
      exact Option.some.inj moved ▸ .failed call was rfl
    · rename_i command now inserts applied was
      rw [← Option.some.inj moved]
      cases applied with
      | true => exact .failed call was rfl
      | false => exact .failed call was rfl
    · cases moved
  | maintain action =>
    simp only [executeStep] at moved
    split at moved
    · cases moved
    · rename_i created
      obtain ⟨outbox, performed, rfl⟩ := Option.map_eq_some_iff.mp moved
      refine .maintained action outbox ?_ performed
      cases action with
      | create id input => exact absurd rfl (created id input)
      | _ => rfl

omit [DecidableEq Call] [DecidableEq Instance] in
/-- What an applied commit leaves. -/
theorem commit_eq_some {call : Call} {execution : Execution Number} {inserts : Inserts}
    {store written : MessageStore Call Instance Number}
    (wrote : store.commit saving call execution inserts = some written) :
    inserts.messageId ∉ store.messages.keys ∧ inserts.rowId ∉ store.outbox.keys ∧
      written.calls = store.calls ∧
      written.committed = store.committed ++ [execution.pair saving call inserts] ∧
      written.messages.keys = store.messages.keys ++ [inserts.messageId] ∧
      written.outbox.keys = store.outbox.keys ++ [inserts.rowId] ∧
      (∀ id, written.messages.find id = if id = inserts.messageId then
        some ((execution.command.document execution.now).saved saving)
        else store.messages.find id) ∧
      ∀ id, written.outbox.find id = if id = inserts.rowId then
        some (savedOutboxInput saving (execution.outboxInput inserts)).entity
        else store.outbox.find id := by
  unfold MessageStore.commit at wrote
  split at wrote
  · rename_i freshMessage
    split at wrote
    · rename_i freshRow
      rw [← Option.some.inj wrote]
      exact ⟨freshMessage, freshRow, rfl, rfl, rfl, rfl, fun _ => rfl, fun _ => rfl⟩
    · cases wrote
  · cases wrote

/-! ### The pairs -/

/-- What holds of the two collections and the record of pairs. -/
structure SavedPairs (saving : Saving Number)
    (store : MessageStore Call Instance Number) : Prop where
  messageKeys : store.messages.keys = store.committed.map (·.messageId)
  rowKeys : store.outbox.keys = store.committed.map (·.rowId)
  built : ∀ pair ∈ store.committed, ∃ (execution : Execution Number) (inserts : Inserts),
    pair = execution.pair saving pair.call inserts
  message : ∀ pair ∈ store.committed, store.messages.find pair.messageId = some pair.message
  announced : ∀ pair ∈ store.committed, ∀ row, store.outbox.find pair.rowId = some row →
    row.announced = pair.row.announced

/-- The record says of each call what its phase says, and each call returned what it mapped. -/
structure PairInvariant (saving : Saving Number)
    (store : MessageStore Call Instance Number) : Prop
    extends SavedPairs saving store where
  calls : ∀ call, store.committed.filter (fun pair => pair.call = call) =
    pairsOf saving call (store.calls call)
  returned : ∀ call execution, store.calls call = some execution → execution.ReturnsMapped

omit [DecidableEq Call] [DecidableEq Instance] in
theorem SavedPairs.initial : SavedPairs saving (.initial : MessageStore Call Instance Number) where
  messageKeys := rfl
  rowKeys := rfl
  built _ member := nomatch member
  message _ member := nomatch member
  announced _ member := nomatch member

omit [DecidableEq Call] [DecidableEq Instance] in
/-- A pair committed earlier has other `_id`s than one that is committed now. -/
theorem SavedPairs.fresh {store : MessageStore Call Instance Number} {inserts : Inserts}
    (saved : SavedPairs saving store) (freshMessage : inserts.messageId ∉ store.messages.keys)
    (freshRow : inserts.rowId ∉ store.outbox.keys) {pair : CommittedPair Call Instance Number}
    (member : pair ∈ store.committed) :
    pair.messageId ≠ inserts.messageId ∧ pair.rowId ≠ inserts.rowId := by
  refine ⟨fun same => freshMessage ?_, fun same => freshRow ?_⟩
  · rw [saved.messageKeys, ← same]
    exact List.mem_map_of_mem member
  · rw [saved.rowKeys, ← same]
    exact List.mem_map_of_mem member

omit [DecidableEq Call] [DecidableEq Instance] in
theorem SavedPairs.commit {store written : MessageStore Call Instance Number} {call : Call}
    {execution : Execution Number} {inserts : Inserts} (saved : SavedPairs saving store)
    (wrote : store.commit saving call execution inserts = some written) :
    SavedPairs saving written := by
  obtain ⟨freshMessage, freshRow, calls, committed, messageKeys, rowKeys, findMessage, findRow⟩ :=
    commit_eq_some wrote
  have each : ∀ {property : CommittedPair Call Instance Number → Prop},
      (∀ pair ∈ store.committed, property pair) → property (execution.pair saving call inserts) →
        ∀ pair ∈ written.committed, property pair := by
    intro property old new pair member
    rw [committed, List.mem_append, List.mem_singleton] at member
    rcases member with before | rfl
    · exact old pair before
    · exact new
  refine ⟨?_, ?_, ?_, ?_, ?_⟩
  · rw [messageKeys, committed, saved.messageKeys, List.map_append]
    rfl
  · rw [rowKeys, committed, saved.rowKeys, List.map_append]
    rfl
  · exact each saved.built ⟨execution, inserts, rfl⟩
  · refine each (fun pair member => ?_) ?_
    · rw [findMessage, if_neg (saved.fresh freshMessage freshRow member).1]
      exact saved.message pair member
    · rw [findMessage]
      exact if_pos rfl
  · refine each (fun pair member => ?_) ?_
    · rw [findRow, if_neg (saved.fresh freshMessage freshRow member).2]
      exact saved.announced pair member
    · intro row stored
      rw [findRow, Execution.pair, if_pos rfl, Option.some_inj] at stored
      rw [← stored]
      rfl

omit [DecidableEq Call] in
/-- An operation on the outbox that inserts nothing leaves the pairs as they are. -/
theorem SavedPairs.perform {config : PublisherConfig} {store : MessageStore Call Instance Number}
    {action : OutboxAction Instance (MessageCreatedEvent Number)}
    {outbox : OutboxCollection Instance (MessageCreatedEvent Number)}
    (saved : SavedPairs saving store) (inserts : action.inserted = [])
    (performed : MessageManagement.perform config action store.outbox = some outbox) :
    SavedPairs saving { store with outbox } := by
  refine { saved with rowKeys := ?_, announced := ?_ }
  · show outbox.keys = _
    rw [keys_perform performed, inserts, List.append_nil, saved.rowKeys]
  · intro pair member row stored
    have step := perform_row performed pair.rowId
    have stored : outbox.find pair.rowId = some row := stored
    have known : pair.rowId ∈ store.outbox.keys := by
      rw [saved.rowKeys]
      exact List.mem_map_of_mem member
    rw [stored] at step
    cases before : store.outbox.find pair.rowId with
    | some earlier =>
      rw [before] at step
      rw [step.announced, saved.announced pair member earlier before]
    | none =>
      rw [before] at step
      exact absurd (step.inserted rfl) (inserts ▸ List.not_mem_nil)

omit [DecidableEq Call] [DecidableEq Instance] in
/-- Every message is that of a committed pair. -/
theorem SavedPairs.of_message {store : MessageStore Call Instance Number}
    (saved : SavedPairs saving store) {id : ObjectId} {document : MessageEntity Number}
    (stored : store.messages.find id = some document) :
    ∃ pair ∈ store.committed, pair.messageId = id ∧ pair.message = document := by
  have known := Collection.mem_keys_of_find stored
  rw [saved.messageKeys] at known
  obtain ⟨pair, member, rfl⟩ := List.mem_map.mp known
  rw [saved.message pair member, Option.some_inj] at stored
  exact ⟨pair, member, rfl, stored⟩

omit [DecidableEq Call] [DecidableEq Instance] in
/-- The row of a pair announces the message of the pair. -/
theorem SavedPairs.payload {store : MessageStore Call Instance Number}
    (saved : SavedPairs saving store) {pair : CommittedPair Call Instance Number}
    (member : pair ∈ store.committed) :
    pair.row.payload.payload =
      toMessageCreatedEventPayload (mapMessageDocument pair.messageId pair.message) := by
  obtain ⟨execution, inserts, same⟩ := saved.built pair member
  rw [same]
  rfl

omit [DecidableEq Instance] in
theorem PairInvariant.initial :
    PairInvariant saving (.initial : MessageStore Call Instance Number) where
  toSavedPairs := .initial
  calls _ := rfl
  returned _ _ stored := nomatch stored

omit [DecidableEq Instance] in
/-- Moving a call on keeps the invariant when the record says of it what its phase says. -/
theorem PairInvariant.setCall {store : MessageStore Call Instance Number} {call : Call}
    {after : Execution Number} (saved : SavedPairs saving store)
    (own : store.committed.filter (fun pair => pair.call = call) =
      pairsOf saving call (some after))
    (others : ∀ other, other ≠ call → store.committed.filter (fun pair => pair.call = other) =
      pairsOf saving other (store.calls other))
    (returns : after.ReturnsMapped)
    (returned : ∀ other execution, store.calls other = some execution → execution.ReturnsMapped) :
    PairInvariant saving (store.setCall call after) where
  messageKeys := saved.messageKeys
  rowKeys := saved.rowKeys
  built := saved.built
  message := saved.message
  announced := saved.announced
  calls other := by
    show store.committed.filter _ = pairsOf saving other (if other = call then some after else _)
    by_cases same : other = call
    · rw [if_pos same, same, own]
    · rw [if_neg same, others other same]
  returned other execution stored := by
    have stored : (if other = call then some after else store.calls other) = some execution :=
      stored
    by_cases same : other = call
    · rw [if_pos same, Option.some_inj] at stored
      exact stored ▸ returns
    · rw [if_neg same] at stored
      exact returned other execution stored

omit [DecidableEq Instance] in
theorem PairInvariant.committed {store written : MessageStore Call Instance Number} {call : Call}
    {execution after : Execution Number} {inserts : Inserts}
    (invariant : PairInvariant saving store)
    (was : store.calls call = some execution) (outstanding : execution.applied = none)
    (wrote : store.commit saving call execution inserts = some written)
    (becomes : (pairsOf saving call (some after) : List (CommittedPair Call Instance Number)) =
      [execution.pair saving call inserts])
    (returns : after.ReturnsMapped) : PairInvariant saving (written.setCall call after) := by
  obtain ⟨_, _, calls, committed, _, _, _, _⟩ := commit_eq_some wrote
  refine .setCall (invariant.commit wrote) ?_ ?_ returns ?_
  · rw [committed, List.filter_append, invariant.calls call, was, becomes, pairsOf, outstanding]
    simp only [Option.map_none, Option.toList_none, List.nil_append, Execution.pair,
      List.filter_cons, decide_true, if_true, List.filter_nil]
  · intro other different
    rw [committed, List.filter_append, invariant.calls other, calls]
    simp only [Execution.pair, List.filter_cons, Ne.symm different, decide_false,
      Bool.false_eq_true, if_false, List.filter_nil, List.append_nil]
  · rw [calls]
    exact invariant.returned

theorem ExecuteMove.invariant {config : PublisherConfig}
    {store next : MessageStore Call Instance Number} {action : ExecuteAction Call Instance Number}
    (moved : ExecuteMove saving config store action next)
    (invariant : PairInvariant saving store) : PairInvariant saving next := by
  cases moved with
  | unchanged => exact invariant
  | started call command now fresh =>
    refine .setCall invariant.toSavedPairs ?_ (fun other _ => invariant.calls other)
      (returnsMapped_of_unresolved rfl) invariant.returned
    rw [invariant.calls call, fresh]
    rfl
  | moved call phase goesOn was live same returns kept =>
    refine .setCall invariant.toSavedPairs ?_ (fun other _ => invariant.calls other) returns
      invariant.returned
    rw [invariant.calls call, was, pairsOf, pairsOf, same]
    rfl
  | committed call phase goesOn was live outstanding wrote becomes returns kept =>
    refine invariant.committed was outstanding wrote ?_ returns
    rw [pairsOf, becomes]
    rfl
  | @failed call before was live =>
    refine .setCall invariant.toSavedPairs ?_ (fun other _ => invariant.calls other)
      (returnsMapped_of_unresolved rfl) invariant.returned
    rw [invariant.calls call, was]
    rfl
  | maintained write outbox inserts performed =>
    exact ⟨invariant.perform inserts performed, invariant.calls, invariant.returned⟩

theorem pair_invariant {config : PublisherConfig} {store : MessageStore Call Instance Number}
    {actions : List (ExecuteAction Call Instance Number)}
    (reached : Transition.run (executeStep saving config) .initial actions = some store) :
    PairInvariant saving store :=
  Transition.run_invariant
    (fun _ _ _ invariant moved => (executeStep_move moved).invariant invariant)
    .initial reached

/-! ### Atomic and one to one -/

/-- Messages and outbox rows are committed in pairs: those ever committed match one to one, each
row announces its own message and starts pending, and each call that resolved has one pair. -/
structure CommitsInPairs (store : MessageStore Call Instance Number) : Prop where
  matched : ∃ rowOf : ObjectId → ObjectId,
    Set.BijOn rowOf {id | id ∈ store.messages.keys} {id | id ∈ store.outbox.keys} ∧
      ∀ pair ∈ store.committed, rowOf pair.messageId = pair.rowId
  messages : ∀ id document, store.messages.find id = some document ↔
    ∃ pair ∈ store.committed, pair.messageId = id ∧ pair.message = document
  rows : ∀ id row, store.outbox.find id = some row →
    ∃ pair ∈ store.committed, pair.rowId = id ∧ pair.row.announced = row.announced
  payload : ∀ pair ∈ store.committed, pair.row.payload.payload =
    toMessageCreatedEventPayload (mapMessageDocument pair.messageId pair.message)
  key : ∀ pair ∈ store.committed, pair.row.key = pair.message.conversationId
  fresh : ∀ pair ∈ store.committed, pair.row.status = .pending ∧ pair.row.attempts = 0 ∧
    pair.row.nextAttemptAt = pair.message.timestamp.ms ∧
    pair.row.createdAt = pair.message.timestamp.ms
  resolved : ∀ call execution inserts returned, store.calls call = some execution →
    execution.phase = .resolved inserts returned →
      ∃ pair, store.committed.filter (fun pair => pair.call = call) = [pair]

/-- Moreover each call that resolved returned the message it committed, and each call that rejected
committed nothing. -/
structure CreatesAtomically (store : MessageStore Call Instance Number) : Prop
    extends CommitsInPairs store where
  returned : ∀ call execution inserts returned, store.calls call = some execution →
    execution.phase = .resolved inserts returned →
      ∃ pair, store.committed.filter (fun pair => pair.call = call) = [pair] ∧
        returned = mapMessageDocument pair.messageId pair.message
  rejected : ∀ call execution applied, store.calls call = some execution →
    execution.phase = .rejected applied →
      store.committed.filter (fun pair => pair.call = call) = []

/-- A call whose callback fails, or that gives up on its commit, has no commit applied. -/
def GivesUpNoCommit (store : MessageStore Call Instance Number)
    (action : ExecuteAction Call Instance Number) : Prop :=
  ∀ call execution, action.failing = some call → store.calls call = some execution →
    execution.applied = none

/-- No call that rejected had its commit applied. -/
def NoCommitGivenUp (store : MessageStore Call Instance Number) : Prop :=
  ∀ call execution, store.calls call = some execution → execution.phase.isRejected = true →
    execution.applied = none

omit [DecidableEq Instance] in
theorem PairInvariant.resolved {store : MessageStore Call Instance Number}
    (invariant : PairInvariant saving store) {call : Call} {execution : Execution Number}
    {inserts : Inserts} {returned : Message Number} (stored : store.calls call = some execution)
    (phase : execution.phase = .resolved inserts returned) :
    store.committed.filter (fun pair => pair.call = call) =
      [execution.pair saving call inserts] := by
  rw [invariant.calls call, stored, pairsOf, Execution.applied, phase]
  rfl

omit [DecidableEq Instance] in
theorem PairInvariant.commitsInPairs {store : MessageStore Call Instance Number}
    (invariant : PairInvariant saving store) : CommitsInPairs store where
  matched := by
    have distinctMessages := store.messages.distinct
    have distinctRows := store.outbox.distinct
    rw [invariant.messageKeys] at distinctMessages
    rw [invariant.rowKeys] at distinctRows
    rw [invariant.messageKeys, invariant.rowKeys]
    exact Collection.exists_bijOn distinctMessages distinctRows
  messages id document := by
    constructor
    · exact invariant.of_message
    · rintro ⟨pair, member, rfl, rfl⟩
      exact invariant.message pair member
  rows id row stored := by
    have known := Collection.mem_keys_of_find stored
    rw [invariant.rowKeys] at known
    obtain ⟨pair, member, rfl⟩ := List.mem_map.mp known
    exact ⟨pair, member, rfl, (invariant.announced pair member row stored).symm⟩
  payload _ member := invariant.payload member
  key pair member := by
    obtain ⟨execution, inserts, same⟩ := invariant.built pair member
    rw [same]
    rfl
  fresh pair member := by
    obtain ⟨execution, inserts, same⟩ := invariant.built pair member
    rw [same]
    exact ⟨rfl, rfl, rfl, rfl⟩
  resolved call execution inserts returned stored phase :=
    ⟨execution.pair saving call inserts, invariant.resolved stored phase⟩

omit [DecidableEq Instance] in
/-- The calls that rejected committed nothing exactly if none had its commit applied. -/
theorem PairInvariant.noCommitGivenUp_iff {store : MessageStore Call Instance Number}
    (invariant : PairInvariant saving store) :
    NoCommitGivenUp store ↔ ∀ call execution applied, store.calls call = some execution →
      execution.phase = .rejected applied →
        store.committed.filter (fun pair => pair.call = call) = [] := by
  constructor
  · intro none call execution applied stored phase
    rw [invariant.calls call, stored, pairsOf, none call execution stored (by rw [phase]; rfl)]
    rfl
  · intro nothing call execution stored isRejected
    cases phase : execution.phase with
    | rejected applied =>
      have empty := nothing call execution applied stored phase
      rw [invariant.calls call, stored, pairsOf, Option.toList_eq_nil_iff,
        Option.map_eq_none_iff] at empty
      exact empty
    | _ =>
      rw [phase] at isRejected
      cases isRejected

omit [JsNumber Number] [DecidableEq Instance] in
/-- Where a call that was not done moves on, only what becomes of it matters. -/
theorem noCommitGivenUp_setCall {store : MessageStore Call Instance Number} {call : Call}
    {after : Execution Number}
    (live : ∀ before, store.calls call = some before → before.phase.isDone = false) :
    NoCommitGivenUp (store.setCall call after) ↔
      NoCommitGivenUp store ∧ (after.phase.isRejected = true → after.applied = none) := by
  constructor
  · intro none
    refine ⟨fun other execution stored isRejected => ?_, fun isRejected => ?_⟩
    · refine none other execution ?_ isRejected
      show (if other = call then some after else store.calls other) = some execution
      rw [if_neg ?_, stored]
      rintro rfl
      have notDone := live execution stored
      rw [ExecutePhase.isDone, isRejected, Bool.or_true] at notDone
      cases notDone
    · refine none call after ?_ isRejected
      exact if_pos rfl
  · rintro ⟨none, own⟩ other execution stored isRejected
    have stored : (if other = call then some after else store.calls other) = some execution :=
      stored
    by_cases same : other = call
    · rw [if_pos same, Option.some_inj] at stored
      exact stored ▸ own (stored ▸ isRejected)
    · rw [if_neg same] at stored
      exact none other execution stored isRejected

/-- A step leaves a rejected call with a commit exactly if a call gives up on an applied one. -/
theorem noCommitGivenUp_step_iff {config : PublisherConfig}
    {store next : MessageStore Call Instance Number} {action : ExecuteAction Call Instance Number}
    (moved : executeStep saving config store action = some next) :
    NoCommitGivenUp next ↔ NoCommitGivenUp store ∧ GivesUpNoCommit store action := by
  have goesOn : action.failing = none → GivesUpNoCommit store action := by
    intro none call execution failing
    rw [none] at failing
    cases failing
  cases executeStep_move moved with
  | unchanged none => exact (and_iff_left (goesOn none)).symm
  | started call command now fresh =>
    rw [noCommitGivenUp_setCall fun before stored => by rw [fresh] at stored; cases stored]
    exact and_congr_right fun _ => iff_of_true (fun isRejected => by cases isRejected) (goesOn rfl)
  | moved call phase none was live same returns kept =>
    rw [noCommitGivenUp_setCall fun before stored => by
      rw [was, Option.some_inj] at stored
      exact stored ▸ live]
    refine and_congr_right fun _ => iff_of_true (fun isRejected => ?_) (goesOn none)
    rw [kept] at isRejected
    cases isRejected
  | committed call phase none was live outstanding wrote becomes returns kept =>
    have calls := (commit_eq_some wrote).2.2.1
    rw [noCommitGivenUp_setCall fun before stored => by
      rw [calls, was, Option.some_inj] at stored
      exact stored ▸ live]
    refine and_congr (by rw [NoCommitGivenUp, NoCommitGivenUp, calls])
      (iff_of_true (fun isRejected => ?_) (goesOn none))
    rw [kept] at isRejected
    cases isRejected
  | @failed call before was live =>
    rw [noCommitGivenUp_setCall fun other stored => by
      rw [was, Option.some_inj] at stored
      exact stored ▸ live]
    refine and_congr_right fun _ => ⟨fun outstanding other execution failing stored => ?_,
      fun none _ => none call before rfl was⟩
    obtain rfl : call = other := Option.some.inj failing
    rw [was, Option.some_inj] at stored
    exact stored ▸ outstanding rfl
  | maintained => exact (and_iff_left (goesOn rfl)).symm

/-- The message a call maps is the one it commits when all of it is saved as it is. -/
theorem mapMessageDocument_saved {execution : Execution Number} {messageId : ObjectId} :
    execution.message messageId =
        mapMessageDocument messageId ((execution.command.document execution.now).saved saving) ↔
      execution.command.isSavedAsIs saving = true := by
  rw [CreateMessageCommand.isSavedAsIs, Bool.and_eq_true, Bool.and_eq_true, Bool.and_eq_true,
    ← toWellFormed_eq_self_iff, ← toWellFormed_eq_self_iff, ← toWellFormed_eq_self_iff,
    ← bind_savedValue_eq_self_iff]
  constructor
  · intro same
    exact ⟨⟨⟨(congrArg Message.conversationId same).symm, (congrArg Message.senderId same).symm⟩,
      (congrArg Message.content same).symm⟩, (congrArg Message.metadata same).symm⟩
  · rintro ⟨⟨⟨conversationId, senderId⟩, content⟩, metadata⟩
    rw [MessageEntity.saved]
    simp only [CreateMessageCommand.document, conversationId, senderId, content, metadata]
    rfl

/-- In every run, messages and rows are committed in pairs. The messages that the calls returned are
those they committed, and no call that rejected committed one, exactly if no call gave up on a
commit that was applied, and all that the resolved ones were given is saved as it is. -/
theorem creates_atomically_iff {config : PublisherConfig}
    {actions : List (ExecuteAction Call Instance Number)}
    {store : MessageStore Call Instance Number}
    (reached : Transition.run (executeStep saving config) .initial actions = some store) :
    CommitsInPairs store ∧
      (CreatesAtomically store ↔
        Transition.Along (executeStep saving config) GivesUpNoCommit .initial actions ∧
          ∀ call execution, store.calls call = some execution →
            execution.phase.isResolved = true →
              execution.command.isSavedAsIs saving = true) := by
  have invariant := pair_invariant reached
  have givenUp : NoCommitGivenUp store ↔
      Transition.Along (executeStep saving config) GivesUpNoCommit .initial actions := by
    rw [Transition.run_iff_along (fun _ _ _ moved => noCommitGivenUp_step_iff moved) reached]
    exact and_iff_right fun _ _ stored => by cases stored
  refine ⟨invariant.commitsInPairs, ?_⟩
  rw [← givenUp]
  constructor
  · intro atomic
    refine ⟨invariant.noCommitGivenUp_iff.mpr atomic.rejected, ?_⟩
    intro call execution stored isResolved
    obtain ⟨inserts, returned, phase⟩ : ∃ inserts returned,
        execution.phase = .resolved inserts returned := by
      cases phase : execution.phase with
      | resolved inserts returned => exact ⟨inserts, returned, rfl⟩
      | _ =>
        rw [phase] at isResolved
        exact absurd isResolved Bool.false_ne_true
    obtain ⟨pair, only, same⟩ := atomic.returned call execution inserts returned stored phase
    rw [invariant.resolved stored phase, List.cons.injEq] at only
    rw [invariant.returned call execution stored inserts returned phase, ← only.1] at same
    exact mapMessageDocument_saved.mp same
  · rintro ⟨none, verbatim⟩
    refine
      { invariant.commitsInPairs with
        returned := ?_
        rejected := invariant.noCommitGivenUp_iff.mp none }
    intro call execution inserts returned stored phase
    refine ⟨execution.pair saving call inserts, invariant.resolved stored phase, ?_⟩
    rw [invariant.returned call execution stored inserts returned phase]
    refine mapMessageDocument_saved.mpr (verbatim call execution stored ?_)
    rw [phase]
    rfl

/-! ### Two runs -/

/-- A command with this metadata. -/
def exampleCommand (metadata : Option (Json Nat)) : CreateMessageCommand Nat where
  conversationId := jsString "conversation-1"
  senderId := jsString "sender-1"
  content := jsString "hello"
  correlationId := jsString "request-1"
  metadata

def exampleDate : JsDate := ⟨1767225600000, by decide, by decide⟩

/-- Two calls at once: one fails at its second insert, the other is aborted once, and commits
again after a commit whose answer was lost. -/
def retriedCreates : List (ExecuteAction Bool Nat Nat) :=
  [.start true (exampleCommand (some (.object [(jsString "channel", .string (jsString "sms"))])))
      exampleDate,
    .start false (exampleCommand none) exampleDate,
    .insertMessage true 1, .insertMessage false 2, .insertOutboxEvent true 3 (jsString "event-1"),
    .abort true, .fail false, .insertMessage true 4, .insertOutboxEvent true 5 (jsString "event-2"),
    .commitUnknown true true, .commit true]

theorem creates_atomically_retried :
    ∃ store,
      Transition.run (executeStep .plain .singleAttempt) .initial retriedCreates = some store ∧
        CreatesAtomically store := by
  have runs : (Transition.run (executeStep .plain .singleAttempt) .initial retriedCreates).any
      (fun store => [true, false].all fun call => (store.calls call).all fun execution =>
        execution.command.isSavedAsIs .plain &&
          (!execution.phase.isRejected || execution.applied.isNone)) = true := by
    decide +kernel
  obtain ⟨store, reached, each⟩ := (Option.any_eq_true _ _).mp runs
  have own : ∀ call execution, store.calls call = some execution →
      execution.command.isSavedAsIs .plain = true ∧
        (execution.phase.isRejected = true → execution.applied = none) := by
    intro call execution stored
    have own := List.all_eq_true.mp each call (by cases call <;> decide)
    rw [stored, Option.all_some, Bool.and_eq_true, Bool.or_eq_true, Bool.not_eq_true',
      Option.isNone_iff_eq_none] at own
    exact ⟨own.1, fun isRejected => own.2.resolve_left fun kept =>
      Bool.false_ne_true (kept.symm.trans isRejected)⟩
  have along := (Transition.run_iff_along (fun _ _ _ moved => noCommitGivenUp_step_iff moved)
    reached).mp fun call execution stored => (own call execution stored).2
  exact ⟨store, reached, (creates_atomically_iff reached).2.mpr
    ⟨along.2, fun call execution stored _ => (own call execution stored).1⟩⟩

/-- A body whose metadata is an empty object. -/
def emptyMetadataCreate : List (ExecuteAction Bool Nat Nat) :=
  [.start true (exampleCommand (some (.object []))) exampleDate, .insertMessage true 1,
    .insertOutboxEvent true 2 (jsString "event-1"), .commit true]

/-- The call returns the empty object, the committed message has no metadata. -/
theorem empty_metadata_dropped :
    ∃ store,
      Transition.run (executeStep .plain .singleAttempt) .initial emptyMetadataCreate = some store ∧
      ¬ CreatesAtomically store := by
  have runs : (Transition.run (executeStep .plain .singleAttempt) .initial emptyMetadataCreate).any
      (fun store => (store.calls true).any fun execution =>
        match execution.phase with
        | .resolved _ returned =>
          returned.metadata.isSome && store.committed.all fun pair => pair.message.metadata.isNone
        | _ => false) = true := by
    decide +kernel
  obtain ⟨store, reached, differs⟩ := (Option.any_eq_true _ _).mp runs
  refine ⟨store, reached, fun atomic => ?_⟩
  obtain ⟨execution, stored, differs⟩ := (Option.any_eq_true _ _).mp differs
  split at differs
  · rename_i inserts returned phase
    rw [Bool.and_eq_true, List.all_eq_true] at differs
    obtain ⟨pair, only, same⟩ := atomic.returned true execution inserts returned stored phase
    have member : pair ∈ store.committed := by
      have member : pair ∈ store.committed.filter fun pair => pair.call = true := by
        rw [only]
        exact List.mem_singleton_self pair
      exact List.mem_of_mem_filter member
    have absent := differs.2 pair member
    have present := differs.1
    rw [same] at present
    cases metadata : pair.message.metadata with
    | none =>
      rw [show (mapMessageDocument pair.messageId pair.message).metadata = none from metadata]
        at present
      exact Bool.false_ne_true present
    | some value =>
      rw [metadata] at absent
      exact Bool.false_ne_true absent
  · exact Bool.false_ne_true differs

end MessageManagement
