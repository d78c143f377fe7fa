/-
This file settles when a message is read back as `execute` returned it.

Three readings of a created message go three ways: `execute` returns the document
in memory, a list reads the stored one, and the row of the outbox holds an event
that was stored as part of another document. The last two differ from the first
exactly if not all of what was posted is saved as it is: if the metadata has a
property that is an empty object, say, or a text a lone surrogate.
-/

import MessageManagement.EventFormat
import MessageManagement.ListMessages

namespace MessageManagement

variable {Call Instance Number : Type} [JsNumber Number]

/-! ### The readings -/

/-- Every message that a list returns for the id is the returned one, and the event in the outbox
row carries it, as long as the row is there. -/
structure ReadsAsReturned (runtime : JsRuntime) (store : MessageStore Call Instance Number)
    (inserts : Inserts) (returned : Message Number) : Prop where
  listed : ∀ query result, listMessages runtime query store.messages = .ok result →
    ∀ message ∈ result.data, message.id = returned.id → message = returned
  announced : ∀ row, store.outbox.find inserts.rowId = some row →
    row.payload.payload = toMessageCreatedEventPayload returned

/-- Whoever lists the conversation, in either order and with any limit that the endpoint allows,
and follows the cursors to the end, gets such a message. -/
def IsListedIn (runtime : JsRuntime) (messages : MessageCollection Number)
    (conversationId : JsString) (Wanted : Message Number → Prop) : Prop :=
  ∀ query : ListMessagesQuery, query.conversationId = conversationId →
    1 ≤ query.limit.getD 20 → query.limit.getD 20 ≤ 100 →
      ∃ calls walk, Transition.run (walkStep runtime query) (.start messages)
          (List.replicate calls .list) = some walk ∧ walk.finished = true ∧
        ∃ message ∈ walk.pages.flatten, Wanted message

/-- Listing its conversation returns a message for the id. Like the stored one, the conversation id
that is asked for is sent as UTF-8. -/
def IsListed (runtime : JsRuntime) (store : MessageStore Call Instance Number)
    (returned : Message Number) : Prop :=
  IsListedIn runtime store.messages (toWellFormed returned.conversationId)
    fun message => message.id = returned.id

/-- What a list returns is stored. -/
theorem stored_of_listed {runtime : JsRuntime} {query : ListMessagesQuery}
    {messages : MessageCollection Number} {result : ListMessagesResult Number}
    (listed : listMessages runtime query messages = .ok result) {message : Message Number}
    (member : message ∈ result.data) :
    ∃ id document, messages.find id = some document ∧ message = mapMessageDocument id document := by
  cases decoded : decodeQueryCursor Number runtime query.order query.cursor with
  | error refused =>
    unfold listMessages at listed
    dsimp only at listed
    rw [show query.sortOrder.getD .desc = query.order from rfl, decoded] at listed
    exact nomatch listed
  | ok after =>
    rw [listMessages_after runtime query messages decoded, Except.ok.injEq] at listed
    rw [← listed] at member
    obtain ⟨entry, onPage, rfl⟩ := List.mem_map.mp member
    exact ⟨entry.1, entry.2, (mem_conversationEntries.mp (Keyset.mem_page onPage).1).1, rfl⟩

/-- A stored message is on one of the pages of its conversation. -/
theorem isListedIn_of_stored [LawfulJsNumber Number] (runtime : JsRuntime)
    {messages : MessageCollection Number} {id : ObjectId} {document : MessageEntity Number}
    (stored : messages.find id = some document) {Wanted : Message Number → Prop}
    (wanted : Wanted (mapMessageDocument id document)) :
    IsListedIn runtime messages document.conversationId Wanted := by
  intro query inConversation positive _
  obtain ⟨walk, reached, finished, pages⟩ := stillWalk_finish runtime positive messages
  refine ⟨_, walk, reached, finished, mapMessageDocument id document, ?_, wanted⟩
  rw [pages]
  refine List.mem_map.mpr ⟨(id, document), ?_, rfl⟩
  rw [sortedEntries, Keyset.mem_sorted]
  exact mem_conversationEntries.mpr ⟨stored, inConversation.symm⟩

/-- Without a cursor, a list with room for all returns every message of the conversation. -/
theorem listed_of_stored (runtime : JsRuntime) {messages : MessageCollection Number}
    {id : ObjectId} {document : MessageEntity Number} (stored : messages.find id = some document) :
    ∃ query result, query.conversationId = document.conversationId ∧
      listMessages runtime query messages = .ok result ∧
      mapMessageDocument id document ∈ result.data := by
  have whole := listMessages_after runtime
    { conversationId := document.conversationId
      limit := some (conversationEntries document.conversationId messages).length
      cursor := none
      sortOrder := none } messages rfl
  refine ⟨_, _, rfl, whole, List.mem_map.mpr ⟨(id, document), ?_, rfl⟩⟩
  have member : (id, document) ∈ Keyset.following (entryPosition .desc) none
      (conversationEntries document.conversationId messages) :=
    Keyset.mem_following.mpr
      ⟨mem_conversationEntries.mpr ⟨stored, rfl⟩, fun _ none => nomatch none⟩
  refine Keyset.mem_page_of_last (decide_eq_false (not_lt.mpr ?_)) member
  exact List.length_filter_le _ _

/-! ### When they agree -/

/-- In every run, a message whose creation resolved is listed, and it is read as it was returned
exactly if all of what was posted is saved as it is. -/
theorem reads_as_returned_iff [LawfulJsNumber Number] [DecidableEq Call] [DecidableEq Instance]
    (runtime : JsRuntime) {saving : Saving Number} {config : PublisherConfig}
    {actions : List (ExecuteAction Call Instance Number)}
    {store : MessageStore Call Instance Number}
    (reached : Transition.run (executeStep saving config) .initial actions = some store)
    {call : Call} {execution : Execution Number} {inserts : Inserts} {returned : Message Number}
    (stored : store.calls call = some execution)
    (phase : execution.phase = .resolved inserts returned) :
    IsListed runtime store returned ∧
      (ReadsAsReturned runtime store inserts returned ↔
        execution.command.isSavedAsIs saving = true) := by
  have invariant := pair_invariant reached
  have member : execution.pair saving call inserts ∈ store.committed := by
    have own : execution.pair saving call inserts ∈
        store.committed.filter fun pair => pair.call = call := by
      rw [invariant.resolved stored phase]
      exact List.mem_singleton_self _
    exact List.mem_of_mem_filter own
  have found := invariant.message _ member
  have mapped : returned = execution.message inserts.messageId :=
    invariant.returned call execution stored inserts returned phase
  obtain ⟨query, result, inConversation, listed, onPage⟩ := listed_of_stored runtime found
  refine ⟨?_, ?_, ?_⟩
  · rw [mapped]
    exact isListedIn_of_stored runtime found rfl
  · intro reads
    have same := reads.listed query result listed _ onPage (by rw [mapped]; rfl)
    rw [mapped] at same
    exact mapMessageDocument_saved.mp same.symm
  · intro verbatim
    have same : returned = mapMessageDocument inserts.messageId
        ((execution.command.document execution.now).saved saving) :=
      mapped.trans (mapMessageDocument_saved.mpr verbatim)
    refine ⟨fun other answer lists message isListed sameId => ?_, fun row isRow => ?_⟩
    · obtain ⟨id, document, isStored, rfl⟩ := stored_of_listed lists isListed
      rw [mapped] at sameId
      obtain rfl : id = inserts.messageId := toString_injective sameId
      rw [same]
      exact congrArg _ (Option.some.inj (isStored.symm.trans found))
    · have announced := congrArg AnnouncedEvent.payload (invariant.announced _ member row isRow)
      have payload := invariant.payload member
      rw [same, show row.payload = (execution.pair saving call inserts).row.payload from announced]
      exact payload

/-! ### Two bodies the API accepts -/

/-- The answer of the call whose metadata has no empty object is what is read. -/
theorem reads_as_returned_retried :
    ∃ store execution inserts returned,
      Transition.run (executeStep .plain .singleAttempt) .initial retriedCreates = some store ∧
        store.calls true = some execution ∧ execution.phase = .resolved inserts returned ∧
        ReadsAsReturned isoRuntime store inserts returned := by
  have runs : (Transition.run (executeStep .plain .singleAttempt) .initial retriedCreates).any
      (fun store => (store.calls true).any fun execution =>
        execution.phase.isResolved && execution.command.isSavedAsIs .plain) = true := by
    decide +kernel
  obtain ⟨store, reached, resolved⟩ := (Option.any_eq_true _ _).mp runs
  obtain ⟨execution, stored, resolved⟩ := (Option.any_eq_true _ _).mp resolved
  rw [Bool.and_eq_true] at resolved
  cases phase : execution.phase with
  | resolved inserts returned =>
    exact ⟨store, execution, inserts, returned, reached, stored, phase,
      (reads_as_returned_iff isoRuntime reached stored phase).2.mpr resolved.2⟩
  | _ =>
    rw [phase] at resolved
    exact nomatch resolved.1

/-- A call returned metadata that the event in its outbox row does not carry. -/
def metadataLeftOut (store : MessageStore Call Instance Number) (execution : Execution Number) :
    Bool :=
  match execution.phase with
  | .resolved inserts returned =>
    returned.metadata.isSome && (store.outbox.find inserts.rowId).any fun row =>
      row.payload.payload.metadata.isNone
  | _ => false

/-- The API accepts an empty object as metadata, and `execute` returns it; the event in the outbox
row has no metadata. -/
theorem empty_metadata_not_listed :
    (∃ dto, validateCreateMessage maxScalars (exampleBody (some (.object []))) = some dto ∧
      dto.command (jsString "request-1") = exampleCommand (some (.object []))) ∧
    ∃ store execution inserts returned,
      Transition.run (executeStep .plain .singleAttempt) .initial emptyMetadataCreate = some store ∧
        store.calls true = some execution ∧ execution.phase = .resolved inserts returned ∧
        ¬ ReadsAsReturned isoRuntime store inserts returned := by
  refine ⟨⟨_, rfl, rfl⟩, ?_⟩
  have runs : (Transition.run (executeStep .plain .singleAttempt) .initial emptyMetadataCreate).any
      (fun store => (store.calls true).any (metadataLeftOut store)) = true := by
    decide +kernel
  obtain ⟨store, reached, differs⟩ := (Option.any_eq_true _ _).mp runs
  obtain ⟨execution, stored, differs⟩ := (Option.any_eq_true _ _).mp differs
  cases phase : execution.phase with
  | resolved inserts returned =>
    refine ⟨store, execution, inserts, returned, reached, stored, phase, fun reads => ?_⟩
    rw [metadataLeftOut, phase, Bool.and_eq_true] at differs
    obtain ⟨present, absent⟩ := differs
    obtain ⟨row, isRow, absent⟩ := (Option.any_eq_true _ _).mp absent
    rw [reads.announced row isRow] at absent
    rw [show (toMessageCreatedEventPayload returned).metadata = returned.metadata from rfl,
      ← Option.not_isSome, present] at absent
    cases absent
  | _ =>
    rw [metadataLeftOut, phase] at differs
    cases differs

end MessageManagement
