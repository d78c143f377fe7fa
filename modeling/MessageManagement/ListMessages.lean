/-
This file models `ListMessagesService`: the page query of the message
repository, the cursor that a page ends with, and a walk that follows the
cursors while messages are inserted.

In the requested direction, a document has one position, a number made of its
timestamp and its `_id`. The filter, the sort and the cursor of the source all
compare by it, so a page is a page of the keyset library, and a walk of the
service is a walk over keysets.
-/

import MessageManagement.CreateMessage
import MessageManagement.Library.Base64Url
import MessageManagement.Library.Keyset
import MessageManagement.Library.Transition
import MessageManagement.SearchIndexer

namespace MessageManagement

variable {Number : Type}

inductive MessageSortOrder
  | asc
  | desc
deriving DecidableEq

structure MessagePageCursor where
  id : JsString
  timestamp : JsDate

/-! ### The query of the repository -/

abbrev MessageCollection (Number : Type) := Collection ObjectId (MessageEntity Number)

/-- The domain's `ListMessagesQuery`. -/
structure RepositoryListQuery where
  conversationId : JsString
  limit : Nat
  sortOrder : MessageSortOrder
  after : Option MessagePageCursor

/-- The `$lt` or `$gt` of a direction: the value comes behind the bound. -/
def MessageSortOrder.behind {Value : Type} [LT Value] [DecidableLT Value] :
    MessageSortOrder → Value → Value → Bool
  | .asc, bound, value => decide (bound < value)
  | .desc, bound, value => decide (value < bound)

/-- The `$or` of the filter. -/
def isBehindCursor (sortOrder : MessageSortOrder) (after : MessagePageCursor)
    (entry : ObjectId × MessageEntity Number) : Bool :=
  sortOrder.behind after.timestamp.ms entry.2.timestamp.ms ||
    (entry.2.timestamp == after.timestamp &&
      sortOrder.behind (ObjectId.ofHexString after.id) entry.1)

/-- The order of `sort({ timestamp: sortDirection, _id: sortDirection })`. -/
def sortsBefore (sortOrder : MessageSortOrder) (first second : ObjectId × MessageEntity Number) :
    Bool :=
  sortOrder.behind first.2.timestamp.ms second.2.timestamp.ms ||
    (first.2.timestamp == second.2.timestamp && !sortOrder.behind second.1 first.1)

/-- The messages a query finds, before its limit. -/
def findByConversation (query : RepositoryListQuery) (messages : MessageCollection Number) :
    List (ObjectId × MessageEntity Number) :=
  (messages.entries.filter fun entry =>
    entry.2.conversationId == query.conversationId &&
      query.after.all fun after => isBehindCursor query.sortOrder after entry).insertionSort
        fun first second => sortsBefore query.sortOrder first second = true

def mapEntry (entry : ObjectId × MessageEntity Number) : Message Number :=
  mapMessageDocument entry.1 entry.2

def listByConversation (query : RepositoryListQuery) (messages : MessageCollection Number) :
    List (Message Number) :=
  ((findByConversation query messages).take query.limit).map mapEntry

/-! ### Cursors -/

structure BadRequestException where
  message : JsString

def MessageSortOrder.text : MessageSortOrder → JsString
  | .asc => jsString "asc"
  | .desc => jsString "desc"

section Cursor

variable [JsNumber Number]

/-- The properties `o`, `t` and `id` of an encoded cursor. -/
def cursorFields (message : Message Number) (sortOrder : MessageSortOrder) :
    List (JsString × Json Number) :=
  [(jsString "o", .string sortOrder.text),
    (jsString "t", .string message.timestamp.toISOString),
    (jsString "id", .string message.id)]

def encodeMessageCursor (message : Message Number) (sortOrder : MessageSortOrder) : JsString :=
  base64urlEncode (utf8Encode (Json.object (cursorFields message sortOrder)).stringify)

/-- The property `o` of a cursor, if it is one of the two directions. -/
def sortOrderField (fields : List (JsString × Json Number)) : Option MessageSortOrder :=
  (stringField "o" fields).bind fun text =>
    if text = MessageSortOrder.asc.text then some .asc
    else if text = MessageSortOrder.desc.text then some .desc
    else none

/-- `/^[a-fA-F0-9]{24}$/.test(id)`. -/
def isHexId (id : JsString) : Bool :=
  id.length == 24 && id.all fun unit => (Json.hexValue unit).isSome

def invalidCursor : BadRequestException := ⟨jsString "cursor is invalid"⟩

variable (Number) in
/-- `parseCursor`: the three properties of a well-formed cursor. -/
@[irreducible]
def parseCursor (cursor : JsString) :
    Except BadRequestException (MessageSortOrder × JsString × JsString) :=
  match (Json.parse (utf8Decode (base64urlDecode cursor)) : Option (Json Number)) with
  | some (.object fields) =>
    match sortOrderField fields, stringField "t" fields, stringField "id" fields with
    | some sortOrder, some timestamp, some id => .ok (sortOrder, timestamp, id)
    | _, _, _ => .error invalidCursor
  | _ => .error invalidCursor

variable (Number) in
def decodeMessageCursor (runtime : JsRuntime) (cursor : JsString)
    (expectedSortOrder : MessageSortOrder) : Except BadRequestException MessagePageCursor :=
  match parseCursor Number cursor with
  | .error refused => .error refused
  | .ok (sortOrder, text, id) =>
    if sortOrder ≠ expectedSortOrder then
      .error ⟨jsString "cursor sortOrder does not match request sortOrder"⟩
    else
      match runtime.date text with
      | none => .error invalidCursor
      | some timestamp => if isHexId id then .ok { id, timestamp } else .error invalidCursor

end Cursor

/-! ### The service -/

/-- The application's `ListMessagesQuery`. -/
structure ListMessagesQuery where
  conversationId : JsString
  limit : Option Nat
  cursor : Option JsString
  sortOrder : Option MessageSortOrder

structure ListPagination where
  limit : Nat
  nextCursor : Option JsString
  hasMore : Bool
  sortOrder : MessageSortOrder

structure ListMessagesResult (Number : Type) where
  data : List (Message Number)
  pagination : ListPagination

section Service

variable [JsNumber Number]

def getNextCursor (page : List (Message Number)) (sortOrder : MessageSortOrder) (hasMore : Bool) :
    Option JsString :=
  if !hasMore then none
  else page.getLast?.map fun lastMessage => encodeMessageCursor lastMessage sortOrder

variable (Number) in
/-- The cursor of a query; an empty string is falsy and none. -/
def decodeQueryCursor (runtime : JsRuntime) (sortOrder : MessageSortOrder) :
    Option JsString → Except BadRequestException (Option MessagePageCursor)
  | none => .ok none
  | some [] => .ok none
  | some cursor => (decodeMessageCursor Number runtime cursor sortOrder).map some

/-- `ListMessagesService.execute`. -/
def listMessages (runtime : JsRuntime) (query : ListMessagesQuery)
    (messages : MessageCollection Number) :
    Except BadRequestException (ListMessagesResult Number) :=
  let limit := query.limit.getD 20
  let sortOrder := query.sortOrder.getD .desc
  (decodeQueryCursor Number runtime sortOrder query.cursor).map fun after =>
    let found := listByConversation
      { conversationId := query.conversationId, limit := limit + 1, sortOrder, after } messages
    let page := found.take limit
    let hasMore := decide (limit < found.length)
    { data := page
      pagination :=
        { limit, nextCursor := getNextCursor page sortOrder hasMore, hasMore, sortOrder } }

end Service

/-! ### Positions -/

/-- The place of a timestamp and an `_id` in a direction. -/
def position (sortOrder : MessageSortOrder) (timestamp : JsDate) (id : ObjectId) : Int :=
  match sortOrder with
  | .asc => timestamp.ms * 2 ^ 96 + id.val
  | .desc => -(timestamp.ms * 2 ^ 96 + id.val)

def entryPosition (sortOrder : MessageSortOrder) (entry : ObjectId × MessageEntity Number) : Int :=
  position sortOrder entry.2.timestamp entry.1

/-- The position behind which a cursor asks for messages. -/
def MessagePageCursor.position (sortOrder : MessageSortOrder) (after : MessagePageCursor) : Int :=
  MessageManagement.position sortOrder after.timestamp (ObjectId.ofHexString after.id)

theorem position_lt (sortOrder : MessageSortOrder) (first second : JsDate) (id other : ObjectId) :
    position sortOrder first id < position sortOrder second other ↔
      sortOrder.behind first.ms second.ms = true ∨
        second = first ∧ sortOrder.behind id other = true := by
  have small := id.isLt
  have otherSmall := other.isLt
  have same : second = first ↔ second.ms = first.ms :=
    ⟨fun equal => equal ▸ rfl, JsDate.ext_ms⟩
  rw [same]
  cases sortOrder with
  | asc =>
    simp only [position, MessageSortOrder.behind, decide_eq_true_eq, Fin.lt_def]
    omega
  | desc =>
    simp only [position, MessageSortOrder.behind, decide_eq_true_eq, Fin.lt_def]
    omega

theorem isBehindCursor_iff (sortOrder : MessageSortOrder) (after : MessagePageCursor)
    (entry : ObjectId × MessageEntity Number) :
    isBehindCursor sortOrder after entry = true ↔
      after.position sortOrder < entryPosition sortOrder entry := by
  rw [MessagePageCursor.position, entryPosition, position_lt, isBehindCursor, Bool.or_eq_true,
    Bool.and_eq_true, beq_iff_eq]

theorem position_injective {sortOrder : MessageSortOrder} {first second : JsDate}
    {id other : ObjectId} (same : position sortOrder first id = position sortOrder second other) :
    first = second ∧ id = other := by
  have small := id.isLt
  have otherSmall := other.isLt
  have parts : first.ms = second.ms ∧ id.val = other.val := by
    cases sortOrder with
    | asc =>
      simp only [position] at same
      omega
    | desc =>
      simp only [position] at same
      omega
  exact ⟨JsDate.ext_ms parts.1, Fin.ext parts.2⟩

theorem sortsBefore_iff (sortOrder : MessageSortOrder)
    (first second : ObjectId × MessageEntity Number) :
    sortsBefore sortOrder first second = true ↔
      entryPosition sortOrder first ≤ entryPosition sortOrder second := by
  rw [← not_lt, entryPosition, entryPosition, position_lt, sortsBefore, Bool.or_eq_true,
    Bool.and_eq_true, beq_iff_eq, Bool.not_eq_true']
  have same : first.2.timestamp = second.2.timestamp ↔
      first.2.timestamp.ms = second.2.timestamp.ms :=
    ⟨fun equal => equal ▸ rfl, JsDate.ext_ms⟩
  rw [same]
  cases sortOrder with
  | asc =>
    simp only [MessageSortOrder.behind, decide_eq_true_eq, decide_eq_false_iff_not, Fin.lt_def]
    omega
  | desc =>
    simp only [MessageSortOrder.behind, decide_eq_true_eq, decide_eq_false_iff_not, Fin.lt_def]
    omega

/-- The entries of a conversation. -/
def conversationEntries (conversationId : JsString) (messages : MessageCollection Number) :
    List (ObjectId × MessageEntity Number) :=
  messages.entries.filter fun entry => entry.2.conversationId == conversationId

theorem mem_conversationEntries {conversationId : JsString} {messages : MessageCollection Number}
    {entry : ObjectId × MessageEntity Number} :
    entry ∈ conversationEntries conversationId messages ↔
      messages.find entry.1 = some entry.2 ∧ entry.2.conversationId = conversationId := by
  rw [conversationEntries, List.mem_filter, Collection.mem_entries, beq_iff_eq]

theorem distinct_conversationEntries (sortOrder : MessageSortOrder) (conversationId : JsString)
    (messages : MessageCollection Number) :
    ((conversationEntries conversationId messages).map (entryPosition sortOrder)).Nodup := by
  have filtered : (conversationEntries conversationId messages).Sublist messages.entries :=
    List.filter_sublist
  have distinct := (Collection.distinct_entries messages).sublist (filtered.map Prod.fst)
  refine List.pairwise_map.mpr ((List.pairwise_map.mp distinct).imp fun different same => ?_)
  exact different (position_injective same).2

/-- What the repository finds is a page of the conversation's entries by their position. -/
theorem findByConversation_eq (query : RepositoryListQuery) (messages : MessageCollection Number) :
    findByConversation query messages =
      Keyset.sorted (entryPosition query.sortOrder)
        (Keyset.following (entryPosition query.sortOrder)
          (query.after.map (·.position query.sortOrder))
          (conversationEntries query.conversationId messages)) := by
  have order : (fun first second : ObjectId × MessageEntity Number =>
      sortsBefore query.sortOrder first second = true) =
        fun first second =>
          entryPosition query.sortOrder first ≤ entryPosition query.sortOrder second := by
    funext first second
    exact propext (sortsBefore_iff query.sortOrder first second)
  have found : (messages.entries.filter fun entry =>
      entry.2.conversationId == query.conversationId &&
        query.after.all fun after => isBehindCursor query.sortOrder after entry) =
      Keyset.following (entryPosition query.sortOrder)
        (query.after.map (·.position query.sortOrder))
        (conversationEntries query.conversationId messages) := by
    rw [Keyset.following, conversationEntries, List.filter_filter]
    refine List.filter_congr fun entry _ => ?_
    rw [Bool.and_comm]
    cases query.after with
    | none => rfl
    | some after =>
      rw [Option.all_some, Option.map_some, Option.all_some]
      refine congrArg (· && _) (Bool.eq_iff_iff.mpr ?_)
      rw [isBehindCursor_iff, decide_eq_true_eq]
  rw [findByConversation, found, Keyset.sorted]
  congr 1

/-! ### The round trip of a cursor -/

section RoundTrip

variable [JsNumber Number]

omit [JsNumber Number] in
theorem sortOrderField_cursorFields (message : Message Number)
    (sortOrder : MessageSortOrder) :
    sortOrderField (cursorFields message sortOrder) = some sortOrder := by
  rw [sortOrderField, show stringField "o" (cursorFields message sortOrder) = some sortOrder.text
    from rfl, Option.bind_some]
  cases sortOrder with
  | asc => exact if_pos rfl
  | desc =>
    rw [if_neg (by decide)]
    exact if_pos rfl

theorem isHexId_toString (id : ObjectId) : isHexId id.toString = true := by
  have digits : ∀ width value, (hexDigits width value).all
      (fun unit => (Json.hexValue unit).isSome) = true := by
    intro width
    induction width with
    | zero => exact fun _ => rfl
    | succ width inductionHypothesis =>
      intro value
      rw [hexDigits, List.all_append, inductionHypothesis, List.all_cons,
        Json.hexValue_hexUnit (Nat.mod_lt value (by decide))]
      rfl
  rw [isHexId, ObjectId.toString, length_hexDigits, digits]
  rfl

variable [LawfulJsNumber Number]

omit [LawfulJsNumber Number] in
theorem plain_cursorFields (message : Message Number) (sortOrder : MessageSortOrder) :
    (Json.object (cursorFields message sortOrder)).Plain := by
  rw [Json.Plain, cursorFields]
  refine ⟨?_, trivial, trivial, trivial, trivial⟩
  show [jsString "o", jsString "t", jsString "id"].Nodup
  decide

theorem parseCursor_encodeMessageCursor (message : Message Number) (sortOrder : MessageSortOrder) :
    parseCursor Number (encodeMessageCursor message sortOrder) =
      .ok (sortOrder, message.timestamp.toISOString, message.id) := by
  rw [parseCursor, encodeMessageCursor, base64urlDecode_base64urlEncode,
    Json.parse_utf8_stringify (plain_cursorFields message sortOrder)]
  dsimp only
  rw [sortOrderField_cursorFields]
  rfl

/-- The cursor of a stored message is decoded to its place. -/
theorem decode_encodeMessageCursor (runtime : JsRuntime) (message : Message Number)
    (isId : isHexId message.id = true) (sortOrder : MessageSortOrder) :
    decodeMessageCursor Number runtime (encodeMessageCursor message sortOrder) sortOrder =
      .ok { id := message.id, timestamp := message.timestamp } := by
  rw [decodeMessageCursor, parseCursor_encodeMessageCursor]
  dsimp only
  rw [if_neg (not_not.mpr rfl), date_toISOString]
  exact if_pos isId

theorem encodeMessageCursor_ne_nil (message : Message Number) (sortOrder : MessageSortOrder) :
    encodeMessageCursor message sortOrder ≠ [] := by
  intro empty
  have parsed := parseCursor_encodeMessageCursor message sortOrder
  have refused : parseCursor Number [] = .error invalidCursor := by
    unfold parseCursor
    rfl
  rw [empty, refused] at parsed
  exact nomatch parsed

theorem decodeQueryCursor_encodeMessageCursor (runtime : JsRuntime) (message : Message Number)
    (isId : isHexId message.id = true) (sortOrder : MessageSortOrder) :
    decodeQueryCursor Number runtime sortOrder (some (encodeMessageCursor message sortOrder)) =
      .ok (some { id := message.id, timestamp := message.timestamp }) := by
  cases encoded : encodeMessageCursor message sortOrder with
  | nil => exact absurd encoded (encodeMessageCursor_ne_nil message sortOrder)
  | cons unit rest =>
    rw [decodeQueryCursor, ← encoded, decode_encodeMessageCursor runtime message isId]
    · rfl
    · exact nofun

end RoundTrip

/-! ### A walk along the cursors -/

/-- The messages, the cursor to ask with next, and the pages so far. A walk is finished once a page
came without a cursor. -/
structure Walk (Number : Type) where
  messages : MessageCollection Number
  cursor : Option JsString
  pages : List (List (Message Number))
  finished : Bool

def Walk.start (messages : MessageCollection Number) : Walk Number where
  messages
  cursor := none
  pages := []
  finished := false

inductive WalkAction (Number : Type)
  | insert (id : ObjectId) (document : MessageEntity Number)
  | list

def walkStep [JsNumber Number] (runtime : JsRuntime) (query : ListMessagesQuery)
    (walk : Walk Number) : WalkAction Number → Option (Walk Number)
  | .insert id document =>
    if fresh : id ∉ walk.messages.keys then
      some { walk with messages := walk.messages.insert id document fresh }
    else none
  | .list =>
    if walk.finished then none
    else
      match listMessages runtime { query with cursor := walk.cursor } walk.messages with
      | .error _ => none
      | .ok result =>
        some { walk with
          cursor := result.pagination.nextCursor
          pages := walk.pages ++ [result.data]
          finished := result.pagination.nextCursor.isNone }

def ListMessagesQuery.order (query : ListMessagesQuery) : MessageSortOrder :=
  query.sortOrder.getD .desc

/-- The cursor that asks for what is behind an entry. -/
def cursorBehind [JsNumber Number] (sortOrder : MessageSortOrder)
    (last : Option (ObjectId × MessageEntity Number)) : Option JsString :=
  last.map fun entry => encodeMessageCursor (mapEntry entry) sortOrder

/-- The page of the conversation's entries behind an entry. -/
def pageBehind (query : ListMessagesQuery) (messages : MessageCollection Number)
    (last : Option (ObjectId × MessageEntity Number)) : List (ObjectId × MessageEntity Number) :=
  Keyset.page (entryPosition query.order) (query.limit.getD 20)
    (last.map (entryPosition query.order)) (conversationEntries query.conversationId messages)

/-- There is more behind an entry than fits on the page. -/
def moreBehind (query : ListMessagesQuery) (messages : MessageCollection Number)
    (last : Option (ObjectId × MessageEntity Number)) : Bool :=
  Keyset.hasMore (entryPosition query.order) (query.limit.getD 20)
    (last.map (entryPosition query.order)) (conversationEntries query.conversationId messages)

section Pages

variable [JsNumber Number]

theorem decodeQueryCursor_cursorBehind [LawfulJsNumber Number] (runtime : JsRuntime)
    (sortOrder : MessageSortOrder) (last : Option (ObjectId × MessageEntity Number)) :
    decodeQueryCursor Number runtime sortOrder (cursorBehind sortOrder last) =
      .ok (last.map fun entry => ⟨entry.1.toString, entry.2.timestamp⟩) := by
  cases last with
  | none => rfl
  | some entry =>
    rw [cursorBehind, Option.map_some, Option.map_some]
    exact decodeQueryCursor_encodeMessageCursor runtime (mapEntry entry) (isHexId_toString entry.1)
      sortOrder

omit [JsNumber Number] in
theorem position_cursor (sortOrder : MessageSortOrder)
    (last : Option (ObjectId × MessageEntity Number)) :
    (last.map fun entry => (⟨entry.1.toString, entry.2.timestamp⟩ : MessagePageCursor)).map
      (·.position sortOrder) = last.map (entryPosition sortOrder) := by
  cases last with
  | none => rfl
  | some entry =>
    rw [Option.map_some, Option.map_some, Option.map_some, MessagePageCursor.position,
      ofHexString_toString]
    rfl

theorem getNextCursor_map (sortOrder : MessageSortOrder)
    (page : List (ObjectId × MessageEntity Number)) (more : Bool) :
    getNextCursor (page.map mapEntry) sortOrder more =
      if more then cursorBehind sortOrder page.getLast? else none := by
  rw [getNextCursor, cursorBehind, List.getLast?_map, Option.map_map]
  cases more with
  | true => rfl
  | false => rfl

/-- A page of the service, as a page of the conversation's entries. -/
theorem listMessages_after (runtime : JsRuntime) (query : ListMessagesQuery)
    (messages : MessageCollection Number) {after : Option MessagePageCursor}
    (decoded : decodeQueryCursor Number runtime query.order query.cursor = .ok after) :
    let bound := after.map (·.position query.order)
    let entries := conversationEntries query.conversationId messages
    let page := Keyset.page (entryPosition query.order) (query.limit.getD 20) bound entries
    let more := Keyset.hasMore (entryPosition query.order) (query.limit.getD 20) bound entries
    listMessages runtime query messages =
      .ok
        { data := page.map mapEntry
          pagination :=
            { limit := query.limit.getD 20
              nextCursor := if more then cursorBehind query.order page.getLast? else none
              hasMore := more
              sortOrder := query.order } } := by
  intro bound entries page more
  have found : listByConversation
      { conversationId := query.conversationId
        limit := query.limit.getD 20 + 1
        sortOrder := query.order
        after } messages =
      ((Keyset.sorted (entryPosition query.order) (Keyset.following (entryPosition query.order)
        bound entries)).take (query.limit.getD 20 + 1)).map mapEntry := by
    rw [listByConversation, findByConversation_eq]
  have data : (((Keyset.sorted (entryPosition query.order) (Keyset.following
      (entryPosition query.order) bound entries)).take (query.limit.getD 20 + 1)).map
        mapEntry).take (query.limit.getD 20) = page.map mapEntry := by
    rw [← List.map_take, List.take_take, Nat.min_eq_left (Nat.le_succ _)]
    rfl
  have hasMore : decide (query.limit.getD 20 < (((Keyset.sorted (entryPosition query.order)
      (Keyset.following (entryPosition query.order) bound entries)).take
        (query.limit.getD 20 + 1)).map mapEntry).length) = more := by
    rw [List.length_map, List.length_take, Keyset.length_sorted]
    refine decide_eq_decide.mpr ?_
    omega
  unfold listMessages
  dsimp only
  rw [show query.sortOrder.getD .desc = query.order from rfl, decoded]
  dsimp only [Except.map]
  rw [found, data, hasMore, getNextCursor_map]

/-- The page behind an entry. -/
theorem listMessages_behind [LawfulJsNumber Number] (runtime : JsRuntime)
    (query : ListMessagesQuery) (messages : MessageCollection Number)
    (last : Option (ObjectId × MessageEntity Number)) :
    listMessages runtime { query with cursor := cursorBehind query.order last } messages =
      .ok
        { data := (pageBehind query messages last).map mapEntry
          pagination :=
            { limit := query.limit.getD 20
              nextCursor :=
                if moreBehind query messages last then
                  cursorBehind query.order (pageBehind query messages last).getLast?
                else none
              hasMore := moreBehind query messages last
              sortOrder := query.order } } := by
  have page := listMessages_after runtime { query with cursor := cursorBehind query.order last }
    messages (decodeQueryCursor_cursorBehind runtime query.order last)
  dsimp only at page
  rw [position_cursor] at page
  exact page

/-- A walk that is not finished can list a page; it is finished when there is no more. -/
theorem walkStep_list [LawfulJsNumber Number] (runtime : JsRuntime) {query : ListMessagesQuery}
    (positive : 1 ≤ query.limit.getD 20) {walk : Walk Number} (unfinished : walk.finished = false)
    {last : Option (ObjectId × MessageEntity Number)}
    (cursor : walk.cursor = cursorBehind query.order last) :
    walkStep runtime query walk .list = some
      { messages := walk.messages
        cursor :=
          if moreBehind query walk.messages last then
            cursorBehind query.order (pageBehind query walk.messages last).getLast?
          else none
        pages := walk.pages ++ [(pageBehind query walk.messages last).map mapEntry]
        finished := !moreBehind query walk.messages last } := by
  unfold walkStep
  rw [cursor, listMessages_behind, if_neg (Bool.eq_false_iff.mp unfinished)]
  dsimp only
  refine congrArg some ?_
  by_cases more : moreBehind query walk.messages last = true
  · have nonempty : pageBehind query walk.messages last ≠ [] := Keyset.page_ne_nil more positive
    rw [if_pos more, more, cursorBehind, List.getLast?_eq_some_getLast nonempty, Option.map_some]
    rfl
  · rw [if_neg more, Bool.eq_false_iff.mpr more]
    rfl

end Pages

/-! ### What a walk lists -/

/-- What a walk listed: entries of the conversation, in order, as far as its cursor or, once it is
finished, as far as there were any at the start. -/
structure WalkInvariant [JsNumber Number] (query : ListMessagesQuery)
    (start : MessageCollection Number) (walk : Walk Number)
    (listed : List (ObjectId × MessageEntity Number)) : Prop where
  grown : ∀ id document, start.find id = some document → walk.messages.find id = some document
  pages : walk.pages.flatten = listed.map mapEntry
  stored : ∀ entry ∈ listed, entry ∈ conversationEntries query.conversationId walk.messages
  goesOn : walk.finished = false → walk.cursor = cursorBehind query.order listed.getLast? ∧
    Keyset.Listed (entryPosition query.order) (conversationEntries query.conversationId start)
      (listed.getLast?.map (entryPosition query.order)) listed
  complete : walk.finished = true → Keyset.Increasing (entryPosition query.order) listed ∧
    ∀ entry ∈ conversationEntries query.conversationId start, entry ∈ listed

section Walks

variable [JsNumber Number] {query : ListMessagesQuery} {initial : MessageCollection Number}
  {walk : Walk Number} {listed : List (ObjectId × MessageEntity Number)}

theorem WalkInvariant.start (query : ListMessagesQuery) (messages : MessageCollection Number) :
    WalkInvariant query messages (.start messages) [] where
  grown _ _ stored := stored
  pages := rfl
  stored _ member := absurd member List.not_mem_nil
  goesOn _ := ⟨rfl, .nil _⟩
  complete finished := absurd finished Bool.false_ne_true

theorem WalkInvariant.grown_entries (invariant : WalkInvariant query initial walk listed) :
    ∀ entry ∈ conversationEntries query.conversationId initial,
      entry ∈ conversationEntries query.conversationId walk.messages := by
  intro entry member
  obtain ⟨stored, inConversation⟩ := mem_conversationEntries.mp member
  exact mem_conversationEntries.mpr ⟨invariant.grown entry.1 entry.2 stored, inConversation⟩

/-- An insert between two pages keeps what was listed. -/
theorem WalkInvariant.insert (invariant : WalkInvariant query initial walk listed) {id : ObjectId}
    (document : MessageEntity Number) (fresh : id ∉ walk.messages.keys) :
    WalkInvariant query initial { walk with messages := walk.messages.insert id document fresh }
      listed := by
  have kept : ∀ other stored, walk.messages.find other = some stored →
      (walk.messages.insert id document fresh).find other = some stored := by
    intro other stored found
    rw [Collection.find_insert, if_neg, found]
    intro same
    exact fresh (same ▸ Collection.mem_keys_of_find found)
  refine { invariant with grown := ?_, stored := ?_ }
  · exact fun other stored found => kept other stored (invariant.grown other stored found)
  · intro entry member
    obtain ⟨found, inConversation⟩ := mem_conversationEntries.mp (invariant.stored entry member)
    exact mem_conversationEntries.mpr ⟨kept entry.1 entry.2 found, inConversation⟩

/-- A page goes on with the list, or finishes it. -/
theorem WalkInvariant.list (positive : 1 ≤ query.limit.getD 20)
    (invariant : WalkInvariant query initial walk listed) (unfinished : walk.finished = false) :
    WalkInvariant query initial
      { messages := walk.messages
        cursor :=
          if moreBehind query walk.messages listed.getLast? then
            cursorBehind query.order (pageBehind query walk.messages listed.getLast?).getLast?
          else none
        pages := walk.pages ++ [(pageBehind query walk.messages listed.getLast?).map mapEntry]
        finished := !moreBehind query walk.messages listed.getLast? }
      (listed ++ pageBehind query walk.messages listed.getLast?) := by
  obtain ⟨cursor, walked⟩ := invariant.goesOn unfinished
  have grown := invariant.grown_entries
  have distinct := distinct_conversationEntries query.order query.conversationId walk.messages
  refine ⟨invariant.grown, ?_, ?_, ?_, ?_⟩
  · dsimp only
    rw [List.flatten_append, List.flatten_singleton, invariant.pages, List.map_append]
  · intro entry member
    rcases List.mem_append.mp member with earlier | onPage
    · exact invariant.stored entry earlier
    · exact (Keyset.mem_page onPage).1
  · intro goesOn
    have more : moreBehind query walk.messages listed.getLast? = true := by
      rw [← Bool.not_eq_false']
      exact goesOn
    have nonempty : pageBehind query walk.messages listed.getLast? ≠ [] :=
      Keyset.page_ne_nil more positive
    dsimp only
    rw [if_pos more, List.getLast?_append_of_ne_nil listed nonempty]
    exact ⟨rfl, walked.next grown distinct positive more⟩
  · intro ends
    have last : moreBehind query walk.messages listed.getLast? = false := by
      rw [← Bool.not_eq_true']
      exact ends
    exact ⟨walked.increasing_append distinct, walked.finish grown last⟩

theorem walkInvariant_step [LawfulJsNumber Number] (runtime : JsRuntime)
    (positive : 1 ≤ query.limit.getD 20) (action : WalkAction Number) {next : Walk Number}
    (invariant : ∃ listed, WalkInvariant query initial walk listed)
    (moved : walkStep runtime query walk action = some next) :
    ∃ listed, WalkInvariant query initial next listed := by
  obtain ⟨listed, invariant⟩ := invariant
  cases action with
  | insert id document =>
    rw [walkStep, Option.dite_none_right_eq_some] at moved
    obtain ⟨fresh, moved⟩ := moved
    rw [Option.some_inj] at moved
    exact ⟨listed, moved ▸ invariant.insert document fresh⟩
  | list =>
    by_cases finished : walk.finished = true
    · rw [walkStep, if_pos finished] at moved
      exact nomatch moved
    · rw [Bool.not_eq_true] at finished
      rw [walkStep_list runtime positive finished (invariant.goesOn finished).1,
        Option.some_inj] at moved
      exact ⟨_, moved ▸ invariant.list positive finished⟩

theorem walk_invariant [LawfulJsNumber Number] (runtime : JsRuntime)
    (positive : 1 ≤ query.limit.getD 20) {actions : List (WalkAction Number)}
    (reached : Transition.run (walkStep runtime query) (.start initial) actions = some walk) :
    ∃ listed, WalkInvariant query initial walk listed :=
  Transition.run_invariant
    (fun _ action _ invariant moved => walkInvariant_step runtime positive action invariant moved)
    ⟨[], WalkInvariant.start query initial⟩ reached

end Walks

/-! ### A walk without inserts -/

section Still

variable [JsNumber Number]

/-- The sorted entries of a conversation. -/
def sortedEntries (query : ListMessagesQuery) (messages : MessageCollection Number) :
    List (ObjectId × MessageEntity Number) :=
  Keyset.sorted (entryPosition query.order) (conversationEntries query.conversationId messages)

/-- The walk listed the first `count` entries and goes on. -/
structure StillWalk (query : ListMessagesQuery) (messages : MessageCollection Number) (count : Nat)
    (walk : Walk Number) : Prop where
  still : walk.messages = messages
  goesOn : walk.finished = false
  cursor :
    walk.cursor = cursorBehind query.order ((sortedEntries query messages).take count).getLast?
  pages : walk.pages.flatten = ((sortedEntries query messages).take count).map mapEntry

variable {query : ListMessagesQuery} {messages : MessageCollection Number} {count : Nat}
  {walk : Walk Number}

theorem stillWalk_start (query : ListMessagesQuery) (messages : MessageCollection Number) :
    StillWalk query messages 0 (.start messages) :=
  ⟨rfl, rfl, rfl, rfl⟩

omit [JsNumber Number] in
theorem moreBehind_still (query : ListMessagesQuery) (messages : MessageCollection Number)
    (count : Nat) :
    moreBehind query messages ((sortedEntries query messages).take count).getLast? =
      decide (query.limit.getD 20 <
        (conversationEntries query.conversationId messages).length - count) :=
  Keyset.hasMore_still (distinct_conversationEntries query.order query.conversationId messages)
    (query.limit.getD 20) count

omit [JsNumber Number] in
theorem take_append_pageBehind (query : ListMessagesQuery) (messages : MessageCollection Number)
    (count : Nat) :
    (sortedEntries query messages).take count ++
        pageBehind query messages ((sortedEntries query messages).take count).getLast? =
      (sortedEntries query messages).take (count + query.limit.getD 20) :=
  Keyset.take_append_page (distinct_conversationEntries query.order query.conversationId messages)
    (query.limit.getD 20) count

/-- A page of such a walk lists the next entries. -/
theorem StillWalk.list [LawfulJsNumber Number] (runtime : JsRuntime)
    (positive : 1 ≤ query.limit.getD 20) (still : StillWalk query messages count walk) :
    ∃ next, walkStep runtime query walk .list = some next ∧
      next.pages.flatten =
        ((sortedEntries query messages).take (count + query.limit.getD 20)).map mapEntry ∧
      if query.limit.getD 20 < (conversationEntries query.conversationId messages).length - count
      then StillWalk query messages (count + query.limit.getD 20) next
      else next.finished = true := by
  have moved := walkStep_list runtime positive still.goesOn still.cursor
  rw [still.still, moreBehind_still] at moved
  refine ⟨_, moved, ?_⟩
  have pages : (walk.pages ++ [(pageBehind query messages
      ((sortedEntries query messages).take count).getLast?).map mapEntry]).flatten =
        ((sortedEntries query messages).take (count + query.limit.getD 20)).map mapEntry := by
    rw [List.flatten_append, List.flatten_singleton, still.pages, ← List.map_append,
      take_append_pageBehind]
  refine ⟨pages, ?_⟩
  by_cases more : query.limit.getD 20 <
      (conversationEntries query.conversationId messages).length - count
  · have nonempty : pageBehind query messages
        ((sortedEntries query messages).take count).getLast? ≠ [] := by
      refine Keyset.page_ne_nil (?_ : moreBehind _ _ _ = true) positive
      rw [moreBehind_still, decide_eq_true more]
    rw [if_pos more]
    refine ⟨rfl, ?_, ?_, pages⟩
    · dsimp only
      rw [decide_eq_true more]
      rfl
    · dsimp only
      rw [decide_eq_true more, if_pos rfl, ← take_append_pageBehind,
        List.getLast?_append_of_ne_nil _ nonempty]
  · rw [if_neg more]
    dsimp only
    rw [decide_eq_false more]
    rfl

/-- The number of calls: `max(1, ceil(n / limit))`. -/
def callsFor (count limit : Nat) : Nat := max 1 ((count + limit - 1) / limit)

theorem callsFor_spec (count : Nat) {limit : Nat} (positive : 1 ≤ limit) (calls : Nat) :
    callsFor count limit ≤ calls + 1 ↔ count ≤ calls * limit + limit := by
  rw [callsFor, max_le_iff, Nat.div_le_iff_le_mul_add_pred positive]
  rw [Nat.mul_add, Nat.mul_comm limit calls, Nat.mul_one]
  omega

/-- Before its last call the walk goes on. -/
theorem stillWalk_run [LawfulJsNumber Number] (runtime : JsRuntime)
    (positive : 1 ≤ query.limit.getD 20) {calls : Nat}
    (fewer : calls < callsFor (conversationEntries query.conversationId messages).length
      (query.limit.getD 20)) :
    ∃ walk, Transition.run (walkStep runtime query) (.start messages)
        (List.replicate calls .list) = some walk ∧
      StillWalk query messages (calls * query.limit.getD 20) walk := by
  induction calls with
  | zero =>
    rw [Nat.zero_mul]
    exact ⟨.start messages, rfl, stillWalk_start query messages⟩
  | succ calls inductionHypothesis =>
    obtain ⟨walk, reached, still⟩ := inductionHypothesis (Nat.lt_of_succ_lt fewer)
    obtain ⟨next, moved, _, goesOn⟩ := still.list runtime positive
    have more := mt (callsFor_spec _ positive calls).mpr (not_le.mpr fewer)
    rw [if_pos (by omega), ← Nat.succ_mul] at goesOn
    refine ⟨next, ?_, goesOn⟩
    rw [List.replicate_succ']
    exact Transition.run_concat_eq_some.mpr ⟨walk, reached, moved⟩

/-- Its last call lists the rest and finishes it. -/
theorem stillWalk_finish [LawfulJsNumber Number] (runtime : JsRuntime)
    (positive : 1 ≤ query.limit.getD 20) (messages : MessageCollection Number) :
    ∃ walk, Transition.run (walkStep runtime query) (.start messages)
        (List.replicate (callsFor (conversationEntries query.conversationId messages).length
          (query.limit.getD 20)) .list) = some walk ∧
      walk.finished = true ∧ walk.pages.flatten = (sortedEntries query messages).map mapEntry := by
  obtain ⟨calls, last⟩ : ∃ calls, callsFor
      (conversationEntries query.conversationId messages).length (query.limit.getD 20) =
        calls + 1 :=
    ⟨_, (Nat.sub_add_cancel (le_max_left 1 _)).symm⟩
  have fewer : calls < callsFor (conversationEntries query.conversationId messages).length
      (query.limit.getD 20) := by
    rw [last]
    exact Nat.lt_succ_self calls
  obtain ⟨walk, reached, still⟩ := stillWalk_run runtime positive fewer
  obtain ⟨next, moved, pages, finished⟩ := still.list runtime positive
  have rest := (callsFor_spec _ positive calls).mp (le_of_eq last)
  rw [if_neg (by omega)] at finished
  refine ⟨next, ?_, finished, ?_⟩
  · rw [last, List.replicate_succ']
    exact Transition.run_concat_eq_some.mpr ⟨walk, reached, moved⟩
  · rw [pages, List.take_of_length_le]
    rw [sortedEntries, Keyset.length_sorted]
    exact rest

end Still

/-! ### Completed walks -/

/-- A message is listed before another one: by its timestamp, then by its `_id`. -/
def listedBefore (sortOrder : MessageSortOrder) (first second : Message Number) : Prop :=
  sortOrder.behind first.timestamp.ms second.timestamp.ms = true ∨
    first.timestamp = second.timestamp ∧
      sortOrder.behind (ObjectId.ofHexString first.id) (ObjectId.ofHexString second.id) = true

/-- The concatenated pages of a completed walk: in strict order, messages of the conversation
only, none twice, and every one that was there at the start once. -/
structure ListsConversation (query : ListMessagesQuery) (initial : MessageCollection Number)
    (walk : Walk Number) : Prop where
  ordered : walk.pages.flatten.Pairwise (listedBefore query.order)
  stored : ∀ message ∈ walk.pages.flatten, message.conversationId = query.conversationId ∧
    ∃ id document, walk.messages.find id = some document ∧ message = mapMessageDocument id document
  distinct : (walk.pages.flatten.map fun message => message.id).Nodup
  complete : ∀ id document, initial.find id = some document →
    document.conversationId = query.conversationId →
      mapMessageDocument id document ∈ walk.pages.flatten

/-- Without inserts the walk ends after `max(1, ceil(n / limit))` calls, not before, and its pages
are the conversation's messages. -/
def EndsInCalls [JsNumber Number] (runtime : JsRuntime) (query : ListMessagesQuery)
    (initial : MessageCollection Number) : Prop :=
  let stored := conversationEntries query.conversationId initial
  let calls := max 1 ((stored.length + query.limit.getD 20 - 1) / query.limit.getD 20)
  (∃ walk, Transition.run (walkStep runtime query) (.start initial) (List.replicate calls .list) =
      some walk ∧ walk.finished = true ∧
        walk.pages.flatten.Perm (stored.map mapEntry) ∧
        walk.pages.flatten.Pairwise (listedBefore query.order)) ∧
    ∀ fewer, fewer < calls → ∃ walk, Transition.run (walkStep runtime query) (.start initial)
      (List.replicate fewer .list) = some walk ∧ walk.finished = false

section Completed

theorem listedBefore_mapEntry (sortOrder : MessageSortOrder)
    (first second : ObjectId × MessageEntity Number) :
    listedBefore sortOrder (mapEntry first) (mapEntry second) ↔
      entryPosition sortOrder first < entryPosition sortOrder second := by
  rw [entryPosition, entryPosition, position_lt, listedBefore]
  show _ ∨ _ ∧ sortOrder.behind (ObjectId.ofHexString first.1.toString)
    (ObjectId.ofHexString second.1.toString) = true ↔ _
  rw [ofHexString_toString, ofHexString_toString, @eq_comm _ second.2.timestamp]
  rfl

theorem pairwise_listedBefore {sortOrder : MessageSortOrder}
    {listed : List (ObjectId × MessageEntity Number)}
    (increasing : Keyset.Increasing (entryPosition sortOrder) listed) :
    (listed.map mapEntry).Pairwise (listedBefore sortOrder) :=
  List.pairwise_map.mpr (increasing.imp (listedBefore_mapEntry sortOrder _ _).mpr)

variable [JsNumber Number]

/-- What a finished walk listed. -/
theorem WalkInvariant.listsConversation {query : ListMessagesQuery}
    {initial : MessageCollection Number} {walk : Walk Number}
    {listed : List (ObjectId × MessageEntity Number)}
    (invariant : WalkInvariant query initial walk listed) (finished : walk.finished = true) :
    ListsConversation query initial walk := by
  obtain ⟨increasing, complete⟩ := invariant.complete finished
  refine ⟨?_, ?_, ?_, ?_⟩
  · rw [invariant.pages]
    exact pairwise_listedBefore increasing
  · intro message member
    rw [invariant.pages, List.mem_map] at member
    obtain ⟨entry, member, rfl⟩ := member
    obtain ⟨found, inConversation⟩ := mem_conversationEntries.mp (invariant.stored entry member)
    exact ⟨inConversation, entry.1, entry.2, found, rfl⟩
  · rw [invariant.pages, List.map_map]
    refine List.pairwise_map.mpr
      (increasing.imp_of_mem fun {first second} member other before => ?_)
    intro same
    have sameId : first.1.toString = second.1.toString := same
    have found := (mem_conversationEntries.mp (invariant.stored first member)).1
    have foundOther := (mem_conversationEntries.mp (invariant.stored second other)).1
    have same : first.1 = second.1 := toString_injective sameId
    rw [same, foundOther, Option.some_inj] at found
    rw [entryPosition, entryPosition, same, found] at before
    exact lt_irrefl _ before
  · intro id document found inConversation
    rw [invariant.pages]
    have member := complete (id, document) (mem_conversationEntries.mpr ⟨found, inConversation⟩)
    exact List.mem_map.mpr ⟨(id, document), member, rfl⟩

/-- The walk over a collection that does not grow. -/
theorem endsInCalls [LawfulJsNumber Number] (runtime : JsRuntime) {query : ListMessagesQuery}
    (positive : 1 ≤ query.limit.getD 20) (initial : MessageCollection Number) :
    EndsInCalls runtime query initial := by
  refine ⟨?_, fun fewer few => ?_⟩
  · obtain ⟨walk, reached, finished, pages⟩ :=
      stillWalk_finish runtime positive initial
    refine ⟨walk, reached, finished, ?_, ?_⟩
    · rw [pages]
      exact (List.perm_insertionSort _ _).map mapEntry
    · rw [pages]
      exact pairwise_listedBefore (Keyset.increasing_sorted
        (distinct_conversationEntries query.order query.conversationId initial))
  · obtain ⟨walk, reached, still⟩ := stillWalk_run runtime positive few
    exact ⟨walk, reached, still.goesOn⟩

/-- Every walk along the cursors, whatever is inserted between its pages, can go on until it is
finished, and then its pages list the conversation. -/
theorem walk_lists_conversation [LawfulJsNumber Number] (runtime : JsRuntime)
    (query : ListMessagesQuery) (positive : 1 ≤ query.limit.getD 20)
    (initial : MessageCollection Number) :
    (∀ actions walk, Transition.run (walkStep runtime query) (.start initial) actions = some walk →
      if walk.finished then ListsConversation query initial walk
      else ∃ next, walkStep runtime query walk .list = some next) ∧
    EndsInCalls runtime query initial := by
  refine ⟨fun actions walk reached => ?_, endsInCalls runtime positive initial⟩
  obtain ⟨listed, invariant⟩ := walk_invariant runtime positive reached
  by_cases finished : walk.finished = true
  · rw [if_pos finished]
    exact invariant.listsConversation finished
  · rw [if_neg finished]
    rw [Bool.not_eq_true] at finished
    exact ⟨_, walkStep_list runtime positive finished (invariant.goesOn finished).1⟩

/-! ### A walk with inserts -/

def exampleListQuery : ListMessagesQuery where
  conversationId := jsString "conversation-1"
  limit := some 1
  cursor := none
  sortOrder := none

/-- Two messages of one instant. -/
def exampleMessages : MessageCollection Nat :=
  (Collection.empty.insert 5 ((exampleCommand none).document exampleDate) (by decide)).insert 7
    ((exampleCommand none).document exampleDate) (by decide)

/-- A message of the same instant is inserted between the pages. -/
def insertedBetween : List (WalkAction Nat) :=
  [.list, .insert 6 ((exampleCommand none).document exampleDate), .list, .list]

theorem walk_lists_conversation_growing :
    1 ≤ exampleListQuery.limit.getD 20 ∧
      ∃ walk, Transition.run (walkStep isoRuntime exampleListQuery) (.start exampleMessages)
          insertedBetween = some walk ∧
        walk.finished = true ∧ ListsConversation exampleListQuery exampleMessages walk := by
  have runs : (Transition.run (walkStep isoRuntime exampleListQuery) (.start exampleMessages)
      insertedBetween).any (fun walk => walk.finished) = true := by decide +kernel
  obtain ⟨walk, reached, finished⟩ := (Option.any_eq_true _ _).mp runs
  have lists := (walk_lists_conversation isoRuntime exampleListQuery (by decide)
    exampleMessages).1 insertedBetween walk reached
  rw [if_pos finished] at lists
  exact ⟨by decide, walk, reached, finished, lists⟩

end Completed

end MessageManagement
