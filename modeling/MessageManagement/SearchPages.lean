/-
This file models `EsMessageSearch.searchMessages` and the walk of a client through
the pages of one search, up to the `totalPages` of its responses.

Of Elasticsearch it assumes what the requested sort clauses promise: each request
gets its slice of some order of the matching documents that respects the clauses,
and documents they tie may change places between two requests. The clauses are
the score and the timestamp, and nothing breaks their ties, as the `_id` does in
`listByConversation`. So a walk returns every message once exactly if no page
ends inside a group of messages of equal score and timestamp.
-/

import Mathlib.Data.Prod.Lex
import MessageManagement.EventFormat
import MessageManagement.Library.OffsetPages
import MessageManagement.PublisherService
import MessageManagement.Reindex

namespace MessageManagement

variable {Number Score : Type}

/-! ### The request -/

structure SearchMessagesQuery where
  conversationId : JsString
  q : JsString
  page : Nat
  limit : Nat

/-- `@Min(1)` and `@Max(100)` on the page of a `SearchMessagesQueryDto`. -/
def validatesPage (page : Nat) : Bool := decide (1 ≤ page) && decide (page ≤ 100)

inductive SortField
  | score
  | timestamp

inductive SortOrder
  | asc
  | desc

structure SortClause where
  field : SortField
  order : SortOrder

/-- The request of `searchMessages`: the conversation is a `term` filter, and the content must
match all terms of the text. -/
structure EsSearchRequest where
  fromHit : Int
  index : JsString
  conversationId : JsString
  content : JsString
  size : Nat
  sort : List SortClause
  trackTotalHits : Bool

def searchRequest (query : SearchMessagesQuery) : EsSearchRequest where
  fromHit := ((query.page : Int) - 1) * query.limit
  index := MESSAGES_READ_ALIAS
  conversationId := query.conversationId
  content := query.q
  size := query.limit
  sort := [⟨.score, .desc⟩, ⟨.timestamp, .desc⟩]
  trackTotalHits := true

/-! ### The response -/

/-- The two shapes of `hits.total`. -/
inductive EsTotal
  | number (value : Nat)
  | object (value : Nat)

structure EsSearchResponse (Number : Type) where
  total : Option EsTotal
  hits : List (EsSearchHit Number)

def getTotalHits : Option EsTotal → Nat
  | some (.number value) => value
  | some (.object value) => value
  | none => 0

structure SearchUnavailableError where
  message : JsString

/-- `Math.ceil(total / limit)`. -/
def totalPages (total limit : Nat) : Nat := (total + limit - 1) / limit

def searchResult [JsNumber Number] (runtime : JsRuntime) (query : SearchMessagesQuery)
    (response : EsSearchResponse Number) : SearchMessagesResult Number where
  data := response.hits.flatMap (mapHit runtime)
  pagination :=
    { page := query.page
      limit := query.limit
      total := getTotalHits response.total
      totalPages := totalPages (getTotalHits response.total) query.limit }

/-- `searchMessages`, given what the client of Elasticsearch returns or throws. -/
def searchMessages [JsNumber Number] (runtime : JsRuntime)
    (elasticsearch : EsSearchRequest → Except ThrownValue (EsSearchResponse Number))
    (query : SearchMessagesQuery) :
    Except SearchUnavailableError (SearchMessagesResult Number) :=
  match elasticsearch (searchRequest query) with
  | .ok response => .ok (searchResult runtime query response)
  | .error (.error message) => .error ⟨message⟩
  | .error (.other _) => .error ⟨jsString "Search is temporarily unavailable"⟩

/-! ### Elasticsearch -/

/-- What Elasticsearch computes of a document; its results are parameters. -/
structure SearchEngine (Number Score : Type) where
  matchesContent : JsString → JsString → Bool
  score : JsString → EsMessageDocument Number → Score
  scoreNumber : Score → Number
  dateValue : JsString → Int

/-- The documents behind each name, one for an id. -/
structure IndexedDocuments (Number : Type) where
  documents : JsString → List (EsMessageDocument Number)
  distinct : ∀ name, ((documents name).map EsMessageDocument.id).Nodup

namespace SearchEngine

variable (engine : SearchEngine Number Score) (indexed : IndexedDocuments Number)

/-- The documents that match a request. -/
def matching (request : EsSearchRequest) : List (EsMessageDocument Number) :=
  (indexed.documents request.index).filter fun document =>
    document.conversationId == request.conversationId &&
      engine.matchesContent request.content document.content

def hit (text : JsString) (document : EsMessageDocument Number) : EsSearchHit Number where
  score := some (engine.scoreNumber (engine.score text document))
  source := some document

end SearchEngine

def SortOrder.precedes {Value : Type} [LT Value] : SortOrder → Value → Value → Prop
  | .asc, first, second => first < second
  | .desc, first, second => second < first

namespace SearchEngine

variable [LinearOrder Score] (engine : SearchEngine Number Score) (text : JsString)

/-- A clause puts the first document before the second. -/
def precedes (clause : SortClause) (first second : EsMessageDocument Number) : Prop :=
  match clause.field with
  | .score => clause.order.precedes (engine.score text first) (engine.score text second)
  | .timestamp =>
    clause.order.precedes (engine.dateValue first.timestamp) (engine.dateValue second.timestamp)

/-- A clause ties two documents. -/
def ties (clause : SortClause) (first second : EsMessageDocument Number) : Prop :=
  match clause.field with
  | .score => engine.score text first = engine.score text second
  | .timestamp => engine.dateValue first.timestamp = engine.dateValue second.timestamp

/-- The clauses, each deciding where the ones before it tie, allow the first document to come
before the second. -/
def sortsNoLater : List SortClause → EsMessageDocument Number → EsMessageDocument Number → Prop
  | [], _, _ => True
  | clause :: rest, first, second =>
    engine.precedes text clause first second ∨
      engine.ties text clause first second ∧ sortsNoLater rest first second

end SearchEngine

/-- What is assumed of the response to a request. -/
structure AnswersSearch [LinearOrder Score] (engine : SearchEngine Number Score)
    (indexed : IndexedDocuments Number) (request : EsSearchRequest)
    (response : EsSearchResponse Number) : Prop where
  hits : ∃ ordering : List (EsMessageDocument Number),
    ordering.Perm (engine.matching indexed request) ∧
      ordering.Pairwise (engine.sortsNoLater request.content request.sort) ∧
        response.hits = ((ordering.drop request.fromHit.toNat).take request.size).map
          (engine.hit request.content)
  total : request.trackTotalHits = true →
    response.total = some (.number (engine.matching indexed request).length) ∨
      response.total = some (.object (engine.matching indexed request).length)

/-! ### The order the request asks for -/

section SortKey

variable [LinearOrder Score] (engine : SearchEngine Number Score) (text : JsString)

/-- The score and the timestamp, the greatest first. -/
def SearchEngine.sortKey (document : EsMessageDocument Number) : Scoreᵒᵈ ×ₗ ℤᵒᵈ :=
  toLex (OrderDual.toDual (engine.score text document),
    OrderDual.toDual (engine.dateValue document.timestamp))

theorem sortsNoLater_iff (query : SearchMessagesQuery) (first second : EsMessageDocument Number) :
    engine.sortsNoLater text (searchRequest query).sort first second ↔
      engine.sortKey text first ≤ engine.sortKey text second := by
  rw [SearchEngine.sortKey, SearchEngine.sortKey, Prod.Lex.toLex_le_toLex]
  refine or_congr Iff.rfl (and_congr OrderDual.toDual_inj.symm ?_)
  rw [OrderDual.toDual_le_toDual, le_iff_lt_or_eq]
  exact or_congr Iff.rfl ((and_iff_left trivial).trans eq_comm)

end SortKey

/-! ### One page -/

section Page

/-- What `mapHit` makes of a document that was found. -/
def foundMessage (runtime : JsRuntime) (engine : SearchEngine Number Score) (q : JsString)
    (document : EsMessageDocument Number) : SearchMessageHit Number where
  id := document.id
  conversationId := document.conversationId
  senderId := document.senderId
  content := document.content
  timestamp := runtime.date document.timestamp
  score := engine.scoreNumber (engine.score q document)
  metadata := document.metadata

/-- The documents a search is for. -/
def searchedDocuments (engine : SearchEngine Number Score) (indexed : IndexedDocuments Number)
    (conversationId q : JsString) : List (EsMessageDocument Number) :=
  (indexed.documents MESSAGES_READ_ALIAS).filter fun document =>
    document.conversationId == conversationId && engine.matchesContent q document.content

theorem nodup_searchedDocuments (engine : SearchEngine Number Score)
    (indexed : IndexedDocuments Number) (conversationId q : JsString) :
    (searchedDocuments engine indexed conversationId q).Nodup :=
  (indexed.distinct MESSAGES_READ_ALIAS).of_map.filter _

/-- Messages found under one id are one document. -/
theorem foundMessage_inj {runtime : JsRuntime} {engine : SearchEngine Number Score}
    {indexed : IndexedDocuments Number} {conversationId q : JsString}
    {first second : EsMessageDocument Number}
    (firstSearched : first ∈ searchedDocuments engine indexed conversationId q)
    (secondSearched : second ∈ searchedDocuments engine indexed conversationId q)
    (same : foundMessage runtime engine q first = foundMessage runtime engine q second) :
    first = second :=
  List.inj_on_of_nodup_map (indexed.distinct MESSAGES_READ_ALIAS)
    (List.mem_of_mem_filter firstSearched) (List.mem_of_mem_filter secondSearched)
    (congrArg SearchMessageHit.id same)

theorem flatMap_mapHit [JsNumber Number] (runtime : JsRuntime)
    (engine : SearchEngine Number Score) (q : JsString)
    (documents : List (EsMessageDocument Number)) :
    (documents.map (engine.hit q)).flatMap (mapHit runtime) =
      documents.map (foundMessage runtime engine q) := by
  rw [List.flatMap_map, List.map_eq_flatMap]
  rfl

theorem toNat_fromHit (conversationId q : JsString) (limit page : Nat) :
    (searchRequest ⟨conversationId, q, page + 1, limit⟩).fromHit.toNat = page * limit := by
  rw [searchRequest]
  dsimp only
  rw [Nat.cast_succ, add_sub_cancel_right, ← Nat.cast_mul, Int.toNat_natCast]

variable [LinearOrder Score] {engine : SearchEngine Number Score}
  {indexed : IndexedDocuments Number} {conversationId q : JsString} {limit page : Nat}
  {response : EsSearchResponse Number}

/-- A page is a slice of an order of the searched documents. -/
theorem AnswersSearch.exists_slice
    (assumed : AnswersSearch engine indexed (searchRequest ⟨conversationId, q, page + 1, limit⟩)
      response) :
    ∃ ordering,
      OffsetPages.IsOrdering (engine.sortKey q)
          (searchedDocuments engine indexed conversationId q) ordering ∧
        response.hits = (OffsetPages.slice limit page ordering).map (engine.hit q) := by
  obtain ⟨ordering, perm, sorted, hits⟩ := assumed.hits
  refine ⟨ordering, ⟨perm, ?_⟩, ?_⟩
  · exact sorted.imp fun before => (sortsNoLater_iff engine q _ _ _).mp before
  · rw [hits, toNat_fromHit]
    rfl

theorem AnswersSearch.getTotalHits
    (assumed : AnswersSearch engine indexed (searchRequest ⟨conversationId, q, page + 1, limit⟩)
      response) :
    getTotalHits response.total = (searchedDocuments engine indexed conversationId q).length := by
  rcases assumed.total rfl with shape | shape
  all_goals
    rw [shape]
    rfl

/-- Any order of the searched documents gives a response as assumed. -/
theorem answers_of_ordering {ordering : List (EsMessageDocument Number)}
    (isOrdering : OffsetPages.IsOrdering (engine.sortKey q)
      (searchedDocuments engine indexed conversationId q) ordering) :
    AnswersSearch engine indexed (searchRequest ⟨conversationId, q, page + 1, limit⟩)
      { total := some (.object (searchedDocuments engine indexed conversationId q).length)
        hits := (OffsetPages.slice limit page ordering).map (engine.hit q) } where
  hits := by
    refine ⟨ordering, isOrdering.perm, ?_, ?_⟩
    · exact isOrdering.sorted.imp fun before => (sortsNoLater_iff engine q _ _ _).mpr before
    · rw [toNat_fromHit]
      rfl
  total := fun _ => Or.inr rfl

theorem validatesPage_of_lt (few : page < 100) : validatesPage (page + 1) = true := by
  rw [validatesPage, Bool.and_eq_true, decide_eq_true_eq, decide_eq_true_eq]
  exact ⟨Nat.le_add_left 1 page, few⟩

end Page

theorem le_totalPages_mul (total : Nat) {limit : Nat} (positive : 0 < limit) :
    total ≤ totalPages total limit * limit := by
  have rest := Nat.mod_lt (total + limit - 1) positive
  have whole := Nat.div_add_mod' (total + limit - 1) limit
  rw [totalPages]
  omega

theorem totalPages_le {total limit most : Nat} (positive : 0 < limit)
    (bounded : total ≤ most * limit) : totalPages total limit ≤ most := by
  rw [totalPages, Nat.div_le_iff_le_mul_add_pred positive, mul_comm]
  omega

/-! ### The walk -/

section Walk

variable [JsNumber Number] {runtime : JsRuntime} {engine : SearchEngine Number Score}
  {indexed : IndexedDocuments Number} {conversationId q : JsString} {limit : Nat}

/-- The data of the pages, in terms of the orders that their responses are slices of. -/
theorem flatMap_data {responses : Nat → EsSearchResponse Number}
    {orderings : Nat → List (EsMessageDocument Number)}
    (slices : ∀ page, (responses page).hits =
      (OffsetPages.slice limit page (orderings page)).map (engine.hit q)) (pages : Nat) :
    ((List.range pages).flatMap fun page =>
        (searchResult runtime ⟨conversationId, q, page + 1, limit⟩ (responses page)).data) =
      (OffsetPages.walk limit pages orderings).map (foundMessage runtime engine q) := by
  have own : ∀ page,
      (searchResult runtime ⟨conversationId, q, page + 1, limit⟩ (responses page)).data =
        (OffsetPages.slice limit page (orderings page)).map (foundMessage runtime engine q) := by
    intro page
    rw [searchResult, slices, flatMap_mapHit]
  rw [funext own, OffsetPages.walk, List.map_flatMap]

variable [LinearOrder Score]

/-- However Elasticsearch answers the requests of a walk, its pages are admitted and served, and
one after another they have every searched document once. -/
def WalkReturnsOnce (runtime : JsRuntime) (engine : SearchEngine Number Score)
    (indexed : IndexedDocuments Number) (conversationId q : JsString) (limit : Nat) : Prop :=
  ∀ responses : Nat → EsSearchResponse Number,
    (∀ page, AnswersSearch engine indexed (searchRequest ⟨conversationId, q, page + 1, limit⟩)
      (responses page)) →
    ∃ (pages : Nat) (results : Nat → SearchMessagesResult Number),
      (∀ page, searchMessages runtime (fun _ => .ok (responses page))
          ⟨conversationId, q, page + 1, limit⟩ = .ok (results page) ∧
        (results page).pagination.totalPages = pages) ∧
      (∀ page < pages, validatesPage (page + 1) = true) ∧
      ((List.range pages).flatMap fun page => (results page).data).Perm
        ((searchedDocuments engine indexed conversationId q).map (foundMessage runtime engine q))

/-- If no page ends inside a group of ties, a walk returns every message once. -/
theorem walk_returns_once (positive : 0 < limit)
    (bounded : (searchedDocuments engine indexed conversationId q).length ≤ 100 * limit)
    (unsplit : ∀ page, ∀ document ∈ searchedDocuments engine indexed conversationId q,
      ¬ OffsetPages.Splits (engine.sortKey q) (searchedDocuments engine indexed conversationId q)
        (page * limit) document) :
    WalkReturnsOnce runtime engine indexed conversationId q limit := by
  intro responses answers
  choose orderings areOrderings slices using fun page => (answers page).exists_slice
  refine ⟨totalPages (searchedDocuments engine indexed conversationId q).length limit,
    fun page => searchResult runtime ⟨conversationId, q, page + 1, limit⟩ (responses page),
    fun page => ⟨rfl, ?_⟩, fun page inside => ?_, ?_⟩
  · exact congrArg (totalPages · limit) (answers page).getTotalHits
  · exact validatesPage_of_lt (lt_of_lt_of_le inside (totalPages_le positive bounded))
  · rw [flatMap_data slices]
    refine List.Perm.map _ ?_
    exact (OffsetPages.walk_perm_iff (nodup_searchedDocuments engine indexed conversationId q)
      (le_totalPages_mul _ positive)).mpr unsplit orderings areOrderings

/-- If a page ends inside a group of ties, some walk skips a message. -/
theorem walk_skips {page : Nat} {document : EsMessageDocument Number}
    (split : OffsetPages.Splits (engine.sortKey q)
      (searchedDocuments engine indexed conversationId q) (page * limit) document) :
    ¬ WalkReturnsOnce runtime engine indexed conversationId q limit := by
  intro exact
  obtain ⟨orderings, areOrderings, skipped, member, missing⟩ := OffsetPages.exists_skipped
    (nodup_searchedDocuments engine indexed conversationId q) split
    (totalPages (searchedDocuments engine indexed conversationId q).length limit)
  obtain ⟨pages, results, served, -, whole⟩ := exact _ fun page =>
    answers_of_ordering (areOrderings page)
  have shown : ∀ page, results page = _ := fun page => (Except.ok.inj (served page).1).symm
  have count :
      pages = totalPages (searchedDocuments engine indexed conversationId q).length limit := by
    rw [← (served 0).2, shown]
    rfl
  rw [funext shown, flatMap_data (fun _ => rfl), count] at whole
  obtain ⟨other, onPage, same⟩ := List.mem_map.mp
    (whole.mem_iff.mpr (List.mem_map_of_mem member))
  refine missing (foundMessage_inj ?_ member same ▸ onPage)
  exact OffsetPages.mem_of_mem_walk areOrderings onPage

/-- For every set of documents and every search whose pages are all admitted, a walk returns every
message once exactly if no page ends inside a group of messages that the sort clauses tie. -/
theorem walk_returns_once_iff (runtime : JsRuntime) (engine : SearchEngine Number Score)
    (indexed : IndexedDocuments Number) (conversationId q : JsString) (positive : 0 < limit)
    (bounded : (searchedDocuments engine indexed conversationId q).length ≤ 100 * limit) :
    WalkReturnsOnce runtime engine indexed conversationId q limit ↔
      ∀ page, ∀ document ∈ searchedDocuments engine indexed conversationId q,
        ¬ OffsetPages.Splits (engine.sortKey q)
          (searchedDocuments engine indexed conversationId q) (page * limit) document :=
  ⟨fun exact _ _ _ split => walk_skips split exact, walk_returns_once positive bounded⟩

/-! ### Two messages -/

/-- An engine that finds every content, with one score, and reads ISO dates. -/
def exampleEngine : SearchEngine Nat Nat where
  matchesContent _ _ := true
  score _ _ := 1
  scoreNumber := id
  dateValue text := ((isoRuntime.date text).map JsDate.ms).getD 0

def exampleDocument (id timestamp : String) : EsMessageDocument Nat where
  id := jsString id
  conversationId := jsString "conversation-1"
  senderId := jsString "sender-1"
  content := jsString "hello"
  timestamp := jsString timestamp
  metadata := none

/-- Two messages, the second at this time. -/
def exampleDocuments (timestamp : String) : IndexedDocuments Nat where
  documents _ := [exampleDocument "1" "2024-05-01T00:00:00.000Z", exampleDocument "2" timestamp]
  distinct _ := by
    show [jsString "1", jsString "2"].Nodup
    decide

theorem later_message_walked :
    WalkReturnsOnce isoRuntime exampleEngine (exampleDocuments "2024-05-01T00:00:00.001Z")
      (jsString "conversation-1") (jsString "hello") 1 := by
  refine (walk_returns_once_iff isoRuntime exampleEngine _ _ _ Nat.one_pos ?_).mpr ?_
  · decide +kernel
  · have distinct : ((searchedDocuments exampleEngine (exampleDocuments "2024-05-01T00:00:00.001Z")
        (jsString "conversation-1") (jsString "hello")).map
          (exampleEngine.sortKey (jsString "hello"))).Nodup := by
      decide +kernel
    exact fun page document _ => OffsetPages.not_splits_of_distinct distinct

/-- Two messages of one time: with one message a page, a walk may skip one. -/
theorem tied_message_skipped :
    ¬ WalkReturnsOnce isoRuntime exampleEngine (exampleDocuments "2024-05-01T00:00:00.000Z")
      (jsString "conversation-1") (jsString "hello") 1 := by
  have split : OffsetPages.Splits (exampleEngine.sortKey (jsString "hello"))
      (searchedDocuments exampleEngine (exampleDocuments "2024-05-01T00:00:00.000Z")
        (jsString "conversation-1") (jsString "hello"))
      (1 * 1) (exampleDocument "1" "2024-05-01T00:00:00.000Z") := by
    unfold OffsetPages.Splits
    decide +kernel
  exact walk_skips split

end Walk

end MessageManagement
