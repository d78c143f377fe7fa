/-
This file settles what one call of `ListMessagesService` answers for any cursor a
client can send.

A cursor is a string: it is decoded from base64url and UTF-8, parsed, and its
direction, its date and its id are checked before the repository makes an
`ObjectId` of the id, which throws on anything but 24 hexadecimal digits. What
gets through is a place in the order of the requested direction, whether or not
a message is stored there, and the page is what the conversation has behind it.
-/

import MessageManagement.ListMessages

namespace MessageManagement

variable {Number : Type} [JsNumber Number]

/-! ### What a call can reject with -/

/-- A refused request, or what `new Types.ObjectId` throws in the repository. -/
inductive ListFailure
  | badRequest (refused : BadRequestException)
  | bsonError (text : JsString)

/-- `new Types.ObjectId(text)`. -/
def newObjectId (text : JsString) : Except ListFailure ObjectId :=
  if isHexId text then .ok (ObjectId.ofHexString text) else .error (.bsonError text)

/-- A call: the queries it sent to the database, and how it ended. -/
structure ListExecution (Number : Type) where
  queries : List RepositoryListQuery
  outcome : Except ListFailure (ListMessagesResult Number)

/-- `ListMessagesService.execute`, with the places where it can throw before it sends its query. -/
def executeListMessages (runtime : JsRuntime) (query : ListMessagesQuery)
    (messages : MessageCollection Number) : ListExecution Number :=
  match decodeQueryCursor Number runtime query.order query.cursor with
  | .error refused => ⟨[], .error (.badRequest refused)⟩
  | .ok after =>
    match after.mapM fun cursor => newObjectId cursor.id with
    | .error failure => ⟨[], .error failure⟩
    | .ok _ =>
      { queries :=
          [{ conversationId := query.conversationId
             limit := query.limit.getD 20 + 1
             sortOrder := query.order
             after }]
        outcome := (listMessages runtime query messages).mapError .badRequest }

/-- The call rejects with a `BadRequestException` and sends no query. -/
def ListExecution.IsRefused (execution : ListExecution Number) : Prop :=
  ∃ refused, execution = ⟨[], .error (.badRequest refused)⟩

/-! ### The decoded cursor -/

theorem decodeMessageCursor_eq_ok {runtime : JsRuntime} {cursor : JsString}
    {sortOrder : MessageSortOrder} {after : MessagePageCursor} :
    decodeMessageCursor Number runtime cursor sortOrder = .ok after ↔
      ∃ text, parseCursor Number cursor = .ok (sortOrder, text, after.id) ∧
        runtime.date text = some after.timestamp ∧ isHexId after.id = true := by
  rw [decodeMessageCursor]
  constructor
  · intro decoded
    split at decoded
    · cases decoded
    · rename_i order text id parsed
      by_cases different : order ≠ sortOrder
      · rw [if_pos different] at decoded
        cases decoded
      · rw [if_neg different] at decoded
        obtain rfl := not_not.mp different
        cases dated : runtime.date text with
        | none =>
          rw [dated] at decoded
          cases decoded
        | some timestamp =>
          rw [dated] at decoded
          dsimp only at decoded
          by_cases isId : isHexId id = true
          · rw [if_pos isId, Except.ok.injEq] at decoded
            subst decoded
            exact ⟨text, parsed, dated, isId⟩
          · rw [if_neg isId] at decoded
            cases decoded
  · rintro ⟨text, parsed, dated, isId⟩
    rw [parsed]
    dsimp only
    rw [if_neg (not_not.mpr rfl), dated]
    exact if_pos isId

/-- An issued cursor is refused for the other direction. -/
theorem decode_encodeMessageCursor_of_ne [LawfulJsNumber Number] (runtime : JsRuntime)
    (message : Message Number) {sortOrder requested : MessageSortOrder}
    (different : sortOrder ≠ requested) :
    ∃ refused, decodeMessageCursor Number runtime (encodeMessageCursor message sortOrder)
      requested = .error refused := by
  rw [decodeMessageCursor, parseCursor_encodeMessageCursor]
  dsimp only
  rw [if_pos different]
  exact ⟨_, rfl⟩

theorem decodeQueryCursor_some (runtime : JsRuntime)
    (sortOrder : MessageSortOrder) {cursor : JsString} (nonempty : cursor ≠ []) :
    decodeQueryCursor Number runtime sortOrder (some cursor) =
      (decodeMessageCursor Number runtime cursor sortOrder).map some := by
  cases cursor with
  | nil => exact absurd rfl nonempty
  | cons unit rest => rfl

/-! ### The page -/

/-- A place comes strictly after another one, by its timestamp, then by its `_id`. -/
def comesAfter : MessageSortOrder → JsDate × ObjectId → JsDate × ObjectId → Prop
  | .asc, bound, place => bound.1.ms < place.1.ms ∨ bound.1.ms = place.1.ms ∧ bound.2 < place.2
  | .desc, bound, place => place.1.ms < bound.1.ms ∨ place.1.ms = bound.1.ms ∧ place.2 < bound.2

/-- The result is the first of the messages that the conversation has strictly after the cursor, in
order, and says whether there are more of them than the limit. -/
structure IsPageAfter (query : ListMessagesQuery) (messages : MessageCollection Number)
    (after : MessagePageCursor) (result : ListMessagesResult Number)
    (behind : List (Message Number)) : Prop where
  ordered : behind.Pairwise (listedBefore query.order)
  stored : ∀ message, message ∈ behind ↔ ∃ id document, messages.find id = some document ∧
    document.conversationId = query.conversationId ∧
    comesAfter query.order (after.timestamp, ObjectId.ofHexString after.id)
      (document.timestamp, id) ∧
    message = mapMessageDocument id document
  data : result.data = behind.take (query.limit.getD 20)
  hasMore : result.pagination.hasMore = true ↔ query.limit.getD 20 < behind.length
  nextCursor : result.pagination.nextCursor ≠ none ↔ result.pagination.hasMore = true

omit [JsNumber Number] in
theorem comesAfter_iff (sortOrder : MessageSortOrder) (timestamp : JsDate) (id : ObjectId)
    (entry : ObjectId × MessageEntity Number) :
    comesAfter sortOrder (timestamp, id) (entry.2.timestamp, entry.1) ↔
      position sortOrder timestamp id < entryPosition sortOrder entry := by
  have same : entry.2.timestamp = timestamp ↔ entry.2.timestamp.ms = timestamp.ms :=
    ⟨fun equal => equal ▸ rfl, JsDate.ext_ms⟩
  rw [entryPosition, position_lt, same]
  cases sortOrder with
  | asc =>
    simp only [comesAfter, MessageSortOrder.behind, decide_eq_true_eq]
    rw [@eq_comm _ timestamp.ms]
  | desc => simp only [comesAfter, MessageSortOrder.behind, decide_eq_true_eq]

/-- The page of a decoded cursor. -/
theorem listMessages_isPageAfter (runtime : JsRuntime) {query : ListMessagesQuery}
    (positive : 1 ≤ query.limit.getD 20) (messages : MessageCollection Number)
    {after : MessagePageCursor}
    (decoded : decodeQueryCursor Number runtime query.order query.cursor = .ok (some after)) :
    ∃ result behind, listMessages runtime query messages = .ok result ∧
      IsPageAfter query messages after result behind := by
  have listed := listMessages_after runtime query messages decoded
  have distinct := distinct_conversationEntries query.order query.conversationId messages
  refine ⟨_, (Keyset.sorted (entryPosition query.order) (Keyset.following
    (entryPosition query.order) (some (after.position query.order))
      (conversationEntries query.conversationId messages))).map mapEntry, listed,
    ?_, ?_, ?_, ?_, ?_⟩
  · exact pairwise_listedBefore (Keyset.increasing_sorted (Keyset.distinct_following distinct))
  · intro message
    rw [List.mem_map]
    constructor
    · rintro ⟨entry, member, rfl⟩
      obtain ⟨known, behind⟩ := Keyset.mem_following.mp (Keyset.mem_sorted.mp member)
      obtain ⟨found, inConversation⟩ := mem_conversationEntries.mp known
      refine ⟨entry.1, entry.2, found, inConversation, ?_, rfl⟩
      exact (comesAfter_iff _ _ _ entry).mpr (behind _ rfl)
    · rintro ⟨id, document, found, inConversation, behind, rfl⟩
      refine ⟨(id, document), Keyset.mem_sorted.mpr (Keyset.mem_following.mpr ⟨?_, ?_⟩), rfl⟩
      · exact mem_conversationEntries.mpr ⟨found, inConversation⟩
      · intro bound isBound
        rw [← Option.some.inj isBound]
        exact (comesAfter_iff _ _ _ (id, document)).mp behind
  · rw [← List.map_take]
    rfl
  · dsimp only
    rw [Keyset.hasMore, decide_eq_true_eq, List.length_map, Keyset.length_sorted]
    rfl
  · dsimp only
    by_cases more : Keyset.hasMore (entryPosition query.order) (query.limit.getD 20)
        ((some after).map (·.position query.order))
        (conversationEntries query.conversationId messages) = true
    · have nonempty := Keyset.page_ne_nil more positive
      rw [if_pos more, cursorBehind, List.getLast?_eq_some_getLast nonempty, Option.map_some]
      exact iff_of_true (Option.some_ne_none _) more
    · rw [if_neg more]
      exact iff_of_false (not_not.mpr rfl) more

/-- What a call answers depends on the conversation's messages only. -/
theorem executeListMessages_congr (runtime : JsRuntime) (query : ListMessagesQuery)
    {messages others : MessageCollection Number}
    (same : ∀ id document, document.conversationId = query.conversationId →
      (messages.find id = some document ↔ others.find id = some document)) :
    executeListMessages runtime query messages = executeListMessages runtime query others := by
  have entries : ∀ entry, entry ∈ conversationEntries query.conversationId messages ↔
      entry ∈ conversationEntries query.conversationId others := by
    intro entry
    rw [mem_conversationEntries, mem_conversationEntries]
    exact and_congr_left (same entry.1 entry.2)
  rw [executeListMessages, executeListMessages]
  cases decoded : decodeQueryCursor Number runtime query.order query.cursor with
  | error refused => rfl
  | ok after =>
    dsimp only
    have distinct := distinct_conversationEntries query.order query.conversationId messages
    have distinctOthers := distinct_conversationEntries query.order query.conversationId others
    rw [listMessages_after runtime query messages decoded,
      listMessages_after runtime query others decoded,
      (Keyset.page_congr distinct distinctOthers entries).1,
      (Keyset.page_congr distinct distinctOthers entries).2]

/-- A call with any cursor is refused before it queries, or lists the page behind the place its
cursor is decoded to. A cursor issued for the other direction is refused, and what other
conversations store does not matter. -/
theorem page_for_every_cursor [LawfulJsNumber Number] (runtime : JsRuntime)
    (query : ListMessagesQuery) (cursor : JsString) (given : query.cursor = some cursor)
    (nonempty : cursor ≠ []) (positive : 1 ≤ query.limit.getD 20)
    (messages : MessageCollection Number) :
    ((executeListMessages runtime query messages).IsRefused ∨
      ∃ text after result behind,
        parseCursor Number cursor = .ok (query.order, text, after.id) ∧
        runtime.date text = some after.timestamp ∧ isHexId after.id = true ∧
        (executeListMessages runtime query messages).outcome = .ok result ∧
        IsPageAfter query messages after result behind) ∧
    (∀ (message : Message Number) sortOrder, cursor = encodeMessageCursor message sortOrder →
      sortOrder ≠ query.order → (executeListMessages runtime query messages).IsRefused) ∧
    ∀ others : MessageCollection Number,
      (∀ id document, document.conversationId = query.conversationId →
        (messages.find id = some document ↔ others.find id = some document)) →
      executeListMessages runtime query messages = executeListMessages runtime query others := by
  have decodes : decodeQueryCursor Number runtime query.order query.cursor =
      (decodeMessageCursor Number runtime cursor query.order).map some := by
    rw [given, decodeQueryCursor_some runtime query.order nonempty]
  refine ⟨?_, ?_, fun others same => executeListMessages_congr runtime query same⟩
  · cases decoded : decodeMessageCursor Number runtime cursor query.order with
    | error refused =>
      refine Or.inl ⟨refused, ?_⟩
      rw [executeListMessages, decodes, decoded]
      rfl
    | ok after =>
      obtain ⟨text, parsed, dated, isId⟩ := decodeMessageCursor_eq_ok.mp decoded
      rw [decoded] at decodes
      obtain ⟨result, behind, listed, isPage⟩ :=
        listMessages_isPageAfter runtime positive messages decodes
      refine Or.inr ⟨text, after, result, behind, parsed, dated, isId, ?_, isPage⟩
      have constructed : (some after).mapM (fun cursor => newObjectId cursor.id) =
          .ok (some (ObjectId.ofHexString after.id)) := by
        show (newObjectId after.id).map some = _
        rw [newObjectId, if_pos isId]
        rfl
      rw [executeListMessages, decodes]
      dsimp only [Except.map]
      rw [constructed, listed]
      rfl
  · rintro message sortOrder rfl different
    obtain ⟨refused, rejects⟩ := decode_encodeMessageCursor_of_ne runtime message different
    refine ⟨refused, ?_⟩
    rw [executeListMessages, decodes, rejects]
    rfl

/-- A cursor at which no message is stored. -/
def forgedCursor : JsString :=
  encodeMessageCursor
    (⟨jsString "FFFFFFFFFFFFFFFFFFFFFFFF", [], [], [], exampleDate, none⟩ : Message Nat) .desc

/-- Both messages of the example are behind it, and the page holds the first. -/
theorem page_for_every_cursor_forged :
    let query := { exampleListQuery with cursor := some forgedCursor }
    ∃ after result behind,
      (executeListMessages isoRuntime query exampleMessages).outcome = .ok result ∧
        IsPageAfter query exampleMessages after result behind ∧
        result.data.length = 1 ∧ result.pagination.hasMore = true := by
  intro query
  have answers : (match (executeListMessages isoRuntime query exampleMessages).outcome with
      | .ok result => result.data.length == 1 && result.pagination.hasMore
      | .error _ => false) = true := by decide +kernel
  obtain ⟨refused | ⟨text, after, result, behind, _, _, _, listed, isPage⟩, _⟩ :=
    page_for_every_cursor isoRuntime query forgedCursor rfl
      (encodeMessageCursor_ne_nil _ _) (by decide) exampleMessages
  · obtain ⟨failure, rejected⟩ := refused
    rw [rejected] at answers
    exact nomatch answers
  · refine ⟨after, result, behind, listed, isPage, ?_⟩
    rw [listed, Bool.and_eq_true, beq_iff_eq] at answers
    exact answers

end MessageManagement
