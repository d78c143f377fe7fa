/-
This file proves that the redrive of the outbox resets exactly the failed rows that
it selects.

The command asks for the failed rows first and updates them by `_id` afterwards,
and in between any publisher and any other redrive may act. Alone it changes the
first selected rows and nothing else; in company it may find that a row it
previewed is not failed any more, or failed again, but never changes a row that is
not failed or that it did not preview.
-/

import Mathlib.Data.Prod.Lex
import MessageManagement.Library.Keyset
import MessageManagement.Message
import MessageManagement.OutboxLifecycle

namespace MessageManagement

variable {Instance Payload : Type}

/-! ### The redrive command -/

/-- `Types.ObjectId.isValid(id)`, for a string. -/
def ObjectId.isValid (id : JsString) : Bool :=
  id.length == 24 && id.all fun unit => (Json.hexValue unit).isSome

structure OutboxFailedEventSummary where
  id : JsString
  eventId : JsString
  key : JsString
  attempts : Int
  nextAttemptAt : Int
  createdAt : Int
  lastError : Option JsString
deriving DecidableEq

structure RedriveFailedOutboxInput where
  dryRun : Bool
  eventIds : List JsString
  ids : List JsString
  limit : Option Nat
  now : Int

structure RedriveFailedOutboxResult where
  matchedCount : Nat
  modifiedCount : Nat
  events : List OutboxFailedEventSummary

/-- The `Error` a selection throws. -/
structure SelectionError where
  message : JsString

/-- One element of `ids`, as the selection reads it. -/
def selectedObjectId (id : JsString) : Except SelectionError ObjectId :=
  if !ObjectId.isValid id then .error ⟨jsString "Invalid outbox _id: " ++ id⟩
  else .ok (ObjectId.ofHexString id)

abbrev OutboxFilter (Instance Payload : Type) :=
  ObjectId → OutboxEventEntity Instance Payload → Bool

/-- The selector `_id: { $in: … }`, where there are ids. -/
def idSelectors (input : RedriveFailedOutboxInput) :
    Except SelectionError (List (OutboxFilter Instance Payload)) :=
  if input.ids.length > 0 then
    (input.ids.mapM selectedObjectId).map fun ids => [fun id _ => decide (id ∈ ids)]
  else .ok []

/-- The selector `eventId: { $in: … }`, where there are event ids. -/
def eventIdSelectors (input : RedriveFailedOutboxInput) : List (OutboxFilter Instance Payload) :=
  if input.eventIds.length > 0 then [fun _ row => decide (row.eventId ∈ input.eventIds)] else []

/-- `{ $or: selectors }`, or `{}` without selectors. -/
def anySelector (selectors : List (OutboxFilter Instance Payload)) :
    OutboxFilter Instance Payload := fun id row =>
  if selectors.length == 0 then true else selectors.any fun selector => selector id row

def buildFailedSelectionFilter (input : RedriveFailedOutboxInput) :
    Except SelectionError (OutboxFilter Instance Payload) :=
  (idSelectors input).map fun selectors => anySelector (selectors ++ eventIdSelectors input)

/-- The sort `{ nextAttemptAt: 1, _id: 1 }`. -/
def failedSortKey (document : ObjectId × OutboxEventEntity Instance Payload) : ℤ ×ₗ ObjectId :=
  toLex (document.2.nextAttemptAt, document.1)

/-- `query.limit(limit)`; MongoDB takes a limit of 0 as no limit. -/
def limitDocuments (limit : Nat)
    (documents : List (ObjectId × OutboxEventEntity Instance Payload)) :
    List (ObjectId × OutboxEventEntity Instance Payload) :=
  if limit = 0 then documents else documents.take limit

/-- The documents that the query of `findFailedEvents` returns. -/
def failedDocuments (filter : OutboxFilter Instance Payload) (limit : Option Nat)
    (outbox : OutboxCollection Instance Payload) :
    List (ObjectId × OutboxEventEntity Instance Payload) :=
  let query := Keyset.sorted failedSortKey
    (outbox.entries.filter fun document =>
      filter document.1 document.2 && document.2.status == .failed)
  match limit with
  | none => query
  | some limit => limitDocuments limit query

def failedEventSummary (document : ObjectId × OutboxEventEntity Instance Payload) :
    OutboxFailedEventSummary where
  id := document.1.toString
  attempts := document.2.attempts
  createdAt := document.2.createdAt
  eventId := document.2.eventId
  key := document.2.key
  lastError := document.2.lastError
  nextAttemptAt := document.2.nextAttemptAt

def findFailedEvents (filter : OutboxFilter Instance Payload) (limit : Option Nat)
    (outbox : OutboxCollection Instance Payload) : List OutboxFailedEventSummary :=
  (failedDocuments filter limit outbox).map failedEventSummary

/-- The `_id`s that the update names. -/
def selectedIds (events : List OutboxFailedEventSummary) : List ObjectId :=
  events.map fun event => ObjectId.ofHexString event.id

/-- How many rows an update of these `_id`s modifies. -/
def modifiedBy (selected : List ObjectId) (outbox : OutboxCollection Instance Payload) : Nat :=
  (outbox.select fun id row => decide (id ∈ selected) && row.status == .failed).length

/-- Where a call of `redriveFailed` is after its query: done, or about to update the rows. -/
inductive RedriveQuery
  | settled (result : Except SelectionError RedriveFailedOutboxResult)
  | selected (events : List OutboxFailedEventSummary)

/-- `redriveFailed` up to its update. -/
def redriveQuery (input : RedriveFailedOutboxInput) (outbox : OutboxCollection Instance Payload) :
    RedriveQuery :=
  match buildFailedSelectionFilter input with
  | .error error => .settled (.error error)
  | .ok filter =>
    let events := findFailedEvents filter input.limit outbox
    if events.length == 0 || input.dryRun then
      .settled (.ok { events, matchedCount := events.length, modifiedCount := 0 })
    else .selected events

/-- `redriveFailed`, when no other writer acts during the call. -/
def redriveFailed (input : RedriveFailedOutboxInput)
    (outbox : OutboxCollection Instance Payload) :
    Except SelectionError RedriveFailedOutboxResult × OutboxCollection Instance Payload :=
  match redriveQuery input outbox with
  | .settled result => (result, outbox)
  | .selected events =>
    (.ok
      { events
        matchedCount := events.length
        modifiedCount := modifiedBy (selectedIds events) outbox },
      redriveSelected (selectedIds events) input.now outbox)

/-! ### The selection -/

/-- What the operator asks for. -/
def Selects (input : RedriveFailedOutboxInput) (id : ObjectId)
    (row : OutboxEventEntity Instance Payload) : Prop :=
  row.status = .failed ∧
    (input.ids = [] ∧ input.eventIds = [] ∨
      (∃ text ∈ input.ids, ObjectId.ofHexString text = id) ∨ row.eventId ∈ input.eventIds)

/-- How many rows the input asks for at most; a limit of 0 is no limit. -/
def RedriveFailedOutboxInput.rowLimit (input : RedriveFailedOutboxInput) : Option Nat :=
  input.limit.filter fun limit => decide (1 ≤ limit)

/-- The first of the selected rows, as many as the limit has room for. -/
def IsSelection (input : RedriveFailedOutboxInput) (outbox : OutboxCollection Instance Payload)
    (chosen : List (ObjectId × OutboxEventEntity Instance Payload)) : Prop :=
  Keyset.First failedSortKey input.rowLimit
    (fun document =>
      outbox.find document.1 = some document.2 ∧ Selects input document.1 document.2) chosen

theorem mapM_selectedObjectId {ids : List JsString}
    (valid : ∀ id ∈ ids, ObjectId.isValid id = true) :
    ids.mapM selectedObjectId = .ok (ids.map ObjectId.ofHexString) := by
  induction ids with
  | nil => rfl
  | cons id rest inductionHypothesis =>
    obtain ⟨head, tail⟩ := List.forall_mem_cons.mp valid
    have first : selectedObjectId id = .ok (ObjectId.ofHexString id) := by
      rw [selectedObjectId, head]
      rfl
    rw [List.mapM_cons, first, inductionHypothesis tail]
    rfl

theorem mapM_selectedObjectId_invalid {ids : List JsString} {id : JsString} (member : id ∈ ids)
    (invalid : ObjectId.isValid id = false) :
    ∃ error, ids.mapM selectedObjectId = .error error := by
  induction ids with
  | nil => exact absurd member List.not_mem_nil
  | cons first rest inductionHypothesis =>
    rw [List.mapM_cons]
    cases read : selectedObjectId first with
    | error error => exact ⟨error, rfl⟩
    | ok value =>
      rcases List.mem_cons.mp member with rfl | member
      · rw [selectedObjectId, invalid] at read
        cases read
      · obtain ⟨error, others⟩ := inductionHypothesis member
        rw [others]
        exact ⟨error, rfl⟩

theorem anySelector_iff (selectors : List (OutboxFilter Instance Payload)) (id : ObjectId)
    (row : OutboxEventEntity Instance Payload) :
    anySelector selectors id row = true ↔
      selectors = [] ∨ ∃ selector ∈ selectors, selector id row = true := by
  rw [anySelector]
  cases selectors with
  | nil => exact iff_of_true rfl (Or.inl rfl)
  | cons first rest =>
    rw [if_neg (by simp), List.any_eq_true]
    simp only [reduceCtorEq, false_or]

variable (Instance Payload) in
theorem idSelectors_valid {input : RedriveFailedOutboxInput}
    (valid : ∀ id ∈ input.ids, ObjectId.isValid id = true) :
    ∃ selectors : List (OutboxFilter Instance Payload), idSelectors input = .ok selectors ∧
      (selectors = [] ↔ input.ids = []) ∧
      ∀ id row, (∃ selector ∈ selectors, selector id row = true) ↔
        ∃ text ∈ input.ids, ObjectId.ofHexString text = id := by
  by_cases none : input.ids = []
  · refine ⟨[], by rw [idSelectors, none]; rfl, iff_of_true rfl none, fun id row => ?_⟩
    rw [none]
    simp only [List.not_mem_nil, false_and, exists_false]
  · refine ⟨[fun id _ => decide (id ∈ input.ids.map ObjectId.ofHexString)], ?_,
      iff_of_false (List.cons_ne_nil _ _) none, fun id row => ?_⟩
    · rw [idSelectors, if_pos (List.length_pos_iff.mpr none), mapM_selectedObjectId valid]
      rfl
    · simp only [List.mem_singleton, exists_eq_left, decide_eq_true_eq, List.mem_map]

variable (Instance Payload) in
theorem eventIdSelectors_iff (input : RedriveFailedOutboxInput) :
    ((eventIdSelectors input : List (OutboxFilter Instance Payload)) = [] ↔ input.eventIds = []) ∧
      ∀ (id : ObjectId) (row : OutboxEventEntity Instance Payload),
        (∃ selector ∈ eventIdSelectors input, selector id row = true) ↔
          row.eventId ∈ input.eventIds := by
  rw [eventIdSelectors]
  by_cases none : input.eventIds = []
  · rw [none, if_neg (by simp)]
    refine ⟨iff_of_true rfl rfl, fun id row => ?_⟩
    simp only [List.not_mem_nil, false_and, exists_false]
  · rw [if_pos (List.length_pos_iff.mpr none)]
    refine ⟨iff_of_false (List.cons_ne_nil _ _) none, fun id row => ?_⟩
    simp only [List.mem_singleton, exists_eq_left, decide_eq_true_eq]

variable (Instance Payload) in
/-- With valid ids, the filter matches the failed rows the input selects. -/
theorem buildFailedSelectionFilter_valid {input : RedriveFailedOutboxInput}
    (valid : ∀ id ∈ input.ids, ObjectId.isValid id = true) :
    ∃ filter : OutboxFilter Instance Payload, buildFailedSelectionFilter input = .ok filter ∧
      ∀ id row, (filter id row && row.status == .failed) = true ↔ Selects input id row := by
  obtain ⟨selectors, built, noIds, byId⟩ := idSelectors_valid Instance Payload valid
  obtain ⟨noEventIds, byEventId⟩ := eventIdSelectors_iff Instance Payload input
  refine ⟨anySelector (selectors ++ eventIdSelectors input), ?_, fun id row => ?_⟩
  · rw [buildFailedSelectionFilter, built]
    rfl
  · rw [Bool.and_eq_true, anySelector_iff, beq_iff_eq, List.append_eq_nil_iff, noIds, noEventIds,
      Selects, and_comm]
    refine and_congr_right fun _ => or_congr_right ?_
    rw [← byId id row, ← byEventId id row]
    simp only [List.mem_append, or_and_right, exists_or]

variable (Instance Payload) in
theorem buildFailedSelectionFilter_invalid {input : RedriveFailedOutboxInput} {id : JsString}
    (member : id ∈ input.ids) (invalid : ObjectId.isValid id = false) :
    ∃ error, (buildFailedSelectionFilter input :
      Except SelectionError (OutboxFilter Instance Payload)) = .error error := by
  obtain ⟨error, thrown⟩ := mapM_selectedObjectId_invalid member invalid
  refine ⟨error, ?_⟩
  rw [buildFailedSelectionFilter, idSelectors, if_pos (List.length_pos_of_mem member), thrown]
  rfl

theorem distinct_failedSortKey (outbox : OutboxCollection Instance Payload)
    (keeps : ObjectId × OutboxEventEntity Instance Payload → Bool) :
    ((outbox.entries.filter keeps).map failedSortKey).Nodup := by
  refine List.Nodup.of_map (fun key => (ofLex key).2) ?_
  rw [List.map_map]
  exact outbox.distinct_entries.sublist (List.Sublist.map Prod.fst List.filter_sublist)

/-- The query returns the first of the rows it matches. -/
theorem isSelection_failedDocuments {input : RedriveFailedOutboxInput}
    {filter : OutboxFilter Instance Payload}
    (selects : ∀ id row, (filter id row && row.status == .failed) = true ↔ Selects input id row)
    (outbox : OutboxCollection Instance Payload) :
    IsSelection input outbox (failedDocuments filter input.limit outbox) := by
  have ordered := Keyset.increasing_sorted (distinct_failedSortKey outbox fun document =>
    filter document.1 document.2 && document.2.status == .failed)
  have member : ∀ document, document ∈ Keyset.sorted failedSortKey (outbox.entries.filter
      fun document => filter document.1 document.2 && document.2.status == .failed) ↔
        outbox.find document.1 = some document.2 ∧ Selects input document.1 document.2 := by
    intro document
    rw [Keyset.mem_sorted, List.mem_filter, Collection.mem_entries, selects]
  rw [IsSelection, RedriveFailedOutboxInput.rowLimit]
  unfold failedDocuments
  dsimp only
  cases input.limit with
  | none => exact (Keyset.first_of_increasing ordered).congr member
  | some limit =>
    dsimp only
    rw [limitDocuments]
    by_cases zero : limit = 0
    · rw [if_pos zero, zero]
      exact (Keyset.first_of_increasing ordered).congr member
    · have positive : decide (1 ≤ limit) = true := decide_eq_true (Nat.one_le_iff_ne_zero.mpr zero)
      rw [if_neg zero, Option.filter_some, if_pos positive]
      exact (Keyset.first_take ordered limit).congr member

/-! ### The reset -/

/-- The row as it was inserted, due at this time. -/
def freshRow (now : Int) (row : OutboxEventEntity Instance Payload) :
    OutboxEventEntity Instance Payload :=
  CreateOutboxEventInput.entity
    { eventId := row.eventId
      eventType := row.eventType
      eventVersion := row.eventVersion
      topic := row.topic
      key := row.key
      payload := row.payload
      nextAttemptAt := now
      createdAt := row.createdAt }

/-- The update makes a row fresh. -/
theorem redriveUpdate_eq_freshRow (now : Int) (row : OutboxEventEntity Instance Payload) :
    redriveUpdate now row = freshRow now row := rfl

/-- Exactly these rows are made fresh. -/
structure Resets (now : Int) (chosen : List (ObjectId × OutboxEventEntity Instance Payload))
    (outbox next : OutboxCollection Instance Payload) : Prop where
  keys : next.keys = outbox.keys
  reset : ∀ document ∈ chosen, next.find document.1 = some (freshRow now document.2)
  others : ∀ id, id ∉ chosen.map Prod.fst → next.find id = outbox.find id

/-- What an update of these `_id`s does to each row. -/
theorem find_redriveSelected (selected : List ObjectId) (now : Int)
    (outbox : OutboxCollection Instance Payload) (id : ObjectId) :
    (redriveSelected selected now outbox).find id = outbox.find id ∨
      ∃ row, id ∈ selected ∧ outbox.find id = some row ∧ row.status = .failed ∧
        (redriveSelected selected now outbox).find id = some (freshRow now row) := by
  rw [redriveSelected, Collection.find_updateMany]
  cases stored : outbox.find id with
  | none => exact Or.inl rfl
  | some row =>
    rw [Option.map_some]
    by_cases accepted : (decide (id ∈ selected) && row.status == .failed) = true
    · rw [if_pos accepted, redriveUpdate_eq_freshRow]
      rw [Bool.and_eq_true, decide_eq_true_eq, beq_iff_eq] at accepted
      exact Or.inr ⟨row, accepted.1, rfl, accepted.2, rfl⟩
    · rw [if_neg accepted]
      exact Or.inl rfl

theorem selectedIds_summary (documents : List (ObjectId × OutboxEventEntity Instance Payload)) :
    selectedIds (documents.map failedEventSummary) = documents.map Prod.fst := by
  rw [selectedIds, List.map_map]
  exact List.map_congr_left fun document _ => ofHexString_toString document.1

section Chosen

variable {input : RedriveFailedOutboxInput} {outbox : OutboxCollection Instance Payload}
  {chosen : List (ObjectId × OutboxEventEntity Instance Payload)}

theorem IsSelection.distinct (selection : IsSelection input outbox chosen) :
    (chosen.map Prod.fst).Nodup := by
  refine List.pairwise_map.mpr (selection.ordered.imp_of_mem ?_)
  intro first second isFirst isSecond before sameId
  have sameRow := (selection.matched first isFirst).1
  rw [sameId, (selection.matched second isSecond).1, Option.some_inj] at sameRow
  rw [failedSortKey, failedSortKey, sameId, sameRow] at before
  exact lt_irrefl _ before

theorem IsSelection.resets (selection : IsSelection input outbox chosen) (now : Int) :
    Resets now chosen outbox (redriveSelected (chosen.map Prod.fst) now outbox) where
  keys := rfl
  reset document isChosen := by
    obtain ⟨stored, failed, _⟩ := selection.matched document isChosen
    have accepted : (decide (document.1 ∈ chosen.map Prod.fst) &&
        document.2.status == .failed) = true := by
      rw [Bool.and_eq_true, decide_eq_true_eq, beq_iff_eq]
      exact ⟨List.mem_map_of_mem isChosen, failed⟩
    rw [redriveSelected, Collection.find_updateMany, stored, Option.map_some, if_pos accepted,
      redriveUpdate_eq_freshRow]
  others id notChosen := by
    rcases find_redriveSelected (chosen.map Prod.fst) now outbox id with same | ⟨_, isChosen, _⟩
    · exact same
    · exact absurd isChosen notChosen

/-- Every chosen row is modified. -/
theorem IsSelection.modifiedBy (selection : IsSelection input outbox chosen) :
    modifiedBy (chosen.map Prod.fst) outbox = chosen.length := by
  have lengths : chosen.length = (chosen.map Prod.fst).length := (List.length_map Prod.fst).symm
  rw [MessageManagement.modifiedBy, lengths]
  refine List.Perm.length_eq ((List.perm_ext_iff_of_nodup (outbox.nodup_select _)
    selection.distinct).mpr fun id => ?_)
  rw [Collection.mem_select]
  constructor
  · rintro ⟨row, _, accepted⟩
    rw [Bool.and_eq_true, decide_eq_true_eq] at accepted
    exact accepted.1
  · intro isChosen
    obtain ⟨document, member, rfl⟩ := List.mem_map.mp isChosen
    obtain ⟨stored, failed, _⟩ := selection.matched document member
    refine ⟨document.2, stored, ?_⟩
    rw [Bool.and_eq_true, decide_eq_true_eq, beq_iff_eq]
    exact ⟨isChosen, failed⟩

end Chosen

/-- A query that goes on to the update previewed a selection, and the call is no dry run. -/
theorem redriveQuery_selected {input : RedriveFailedOutboxInput}
    {outbox : OutboxCollection Instance Payload} {events : List OutboxFailedEventSummary}
    (selected : redriveQuery input outbox = .selected events) :
    input.dryRun = false ∧ (∀ id ∈ input.ids, ObjectId.isValid id = true) ∧
      ∃ chosen, IsSelection input outbox chosen ∧ events = chosen.map failedEventSummary := by
  have valid : ∀ id ∈ input.ids, ObjectId.isValid id = true := by
    intro id member
    by_contra invalid
    obtain ⟨error, thrown⟩ :=
      buildFailedSelectionFilter_invalid Instance Payload member (Bool.eq_false_iff.mpr invalid)
    rw [redriveQuery, thrown] at selected
    cases selected
  obtain ⟨filter, built, selects⟩ := buildFailedSelectionFilter_valid Instance Payload valid
  rw [redriveQuery, built] at selected
  dsimp only at selected
  split at selected
  · cases selected
  · rename_i goesOn
    rw [Bool.or_eq_true, not_or, Bool.not_eq_true, Bool.not_eq_true] at goesOn
    refine ⟨goesOn.2, valid, _, isSelection_failedDocuments selects outbox, ?_⟩
    exact (RedriveQuery.selected.inj selected).symm

/-- Alone, a call that is no dry run makes exactly the chosen rows fresh and counts them. -/
theorem redriveFailed_valid {input : RedriveFailedOutboxInput}
    (confirmed : input.dryRun = false) (valid : ∀ id ∈ input.ids, ObjectId.isValid id = true)
    (outbox : OutboxCollection Instance Payload) :
    ∃ chosen, IsSelection input outbox chosen ∧
      (redriveFailed input outbox).1 = .ok
        { events := chosen.map failedEventSummary
          matchedCount := chosen.length
          modifiedCount := chosen.length } ∧
      Resets input.now chosen outbox (redriveFailed input outbox).2 := by
  obtain ⟨filter, built, selects⟩ := buildFailedSelectionFilter_valid Instance Payload valid
  have selection := isSelection_failedDocuments selects outbox
  refine ⟨_, selection, ?_⟩
  by_cases empty : failedDocuments filter input.limit outbox = []
  · have query : redriveQuery input outbox =
        .settled (.ok { events := [], matchedCount := 0, modifiedCount := 0 }) := by
      rw [redriveQuery, built]
      dsimp only
      rw [findFailedEvents, empty]
      rfl
    rw [redriveFailed, query, empty]
    exact ⟨rfl, rfl, fun _ member => absurd member List.not_mem_nil, fun _ _ => rfl⟩
  · have query : redriveQuery input outbox =
        .selected (findFailedEvents filter input.limit outbox) := by
      have positive := List.length_pos_iff.mpr empty
      rw [redriveQuery, built]
      dsimp only
      refine if_neg ?_
      rw [confirmed, Bool.or_false, beq_iff_eq, findFailedEvents, List.length_map]
      omega
    rw [redriveFailed, query]
    dsimp only
    rw [findFailedEvents, selectedIds_summary, selection.modifiedBy, List.length_map]
    exact ⟨rfl, selection.resets input.now⟩

/-- A dry run and an invalid id change nothing. -/
theorem redriveFailed_unchanged {input : RedriveFailedOutboxInput}
    (refused : input.dryRun = true ∨ ∃ id ∈ input.ids, ObjectId.isValid id = false)
    (outbox : OutboxCollection Instance Payload) : (redriveFailed input outbox).2 = outbox := by
  rw [redriveFailed]
  cases query : redriveQuery input outbox with
  | settled => rfl
  | selected events =>
    obtain ⟨confirmed, valid, _⟩ := redriveQuery_selected query
    rcases refused with dry | ⟨id, member, invalid⟩
    · exact absurd (confirmed.symm.trans dry) Bool.false_ne_true
    · exact absurd (invalid.symm.trans (valid id member)) Bool.false_ne_true

/-! ### Redrives among other writers -/

/-- Where a call of `redriveFailed` is: its update has these rows left and modified so many, or
it returned or threw. -/
inductive OutboxRedrivePhase
  | updating (input : RedriveFailedOutboxInput) (events : List OutboxFailedEventSummary)
      (remaining : List ObjectId) (modified : Nat)
  | settled (result : Except SelectionError RedriveFailedOutboxResult)

/-- Where a call is after its query. -/
def RedriveQuery.phase (input : RedriveFailedOutboxInput) : RedriveQuery → OutboxRedrivePhase
  | .settled result => .settled result
  | .selected events => .updating input events (selectedIds events) 0

/-- The outbox, and the calls of `redriveFailed` made so far. -/
structure OutboxRedriveState (Run Instance Payload : Type) where
  outbox : OutboxCollection Instance Payload
  runs : Run → Option OutboxRedrivePhase

def OutboxRedriveState.start {Run : Type} (outbox : OutboxCollection Instance Payload) :
    OutboxRedriveState Run Instance Payload where
  outbox
  runs _ := none

/-- An update of many rows is not one atomic operation: `update` lets it reach some of the rows
it has left. `other` is any operation of any other writer. -/
inductive OutboxRedriveLabel (Run Instance Payload : Type)
  | find (run : Run) (input : RedriveFailedOutboxInput)
  | update (run : Run) (rows : List ObjectId)
  | finish (run : Run)
  | other (action : OutboxAction Instance Payload)

/-- The call that makes the step. -/
def OutboxRedriveLabel.run? {Run : Type} : OutboxRedriveLabel Run Instance Payload → Option Run
  | .find run _ => some run
  | .update run _ => some run
  | .finish run => some run
  | .other _ => none

section Steps

variable {Run : Type} [DecidableEq Run] [DecidableEq Instance]

def outboxRedriveStep (config : PublisherConfig) (state : OutboxRedriveState Run Instance Payload) :
    OutboxRedriveLabel Run Instance Payload → Option (OutboxRedriveState Run Instance Payload)
  | .find run input =>
    match state.runs run with
    | none => some
      { state with
        runs := Function.update state.runs run
          (some ((redriveQuery input state.outbox).phase input)) }
    | some _ => none
  | .update run rows =>
    match state.runs run with
    | some (.updating input events remaining modified) =>
      if rows.all fun id => decide (id ∈ remaining) then some
        { outbox := redriveSelected rows input.now state.outbox
          runs := Function.update state.runs run (some (.updating input events
            (remaining.filter fun id => decide (id ∉ rows))
            (modified + modifiedBy rows state.outbox))) }
      else none
    | _ => none
  | .finish run =>
    match state.runs run with
    | some (.updating _ events [] modified) => some
      { state with
        runs := Function.update state.runs run (some (.settled (.ok
          { events, matchedCount := events.length, modifiedCount := modified }))) }
    | _ => none
  | .other action =>
    (perform config action state.outbox).map fun outbox => { state with outbox }

/-- What a step does. -/
inductive OutboxRedriveTransition (config : PublisherConfig)
    (state : OutboxRedriveState Run Instance Payload) :
    OutboxRedriveLabel Run Instance Payload → OutboxRedriveState Run Instance Payload → Prop
  | found (run input) :
      OutboxRedriveTransition config state (.find run input)
        { outbox := state.outbox
          runs := Function.update state.runs run
            (some ((redriveQuery input state.outbox).phase input)) }
  | updated (run input events remaining modified rows)
      (updating : state.runs run = some (.updating input events remaining modified))
      (among : ∀ id ∈ rows, id ∈ remaining) :
      OutboxRedriveTransition config state (.update run rows)
        { outbox := redriveSelected rows input.now state.outbox
          runs := Function.update state.runs run (some (.updating input events
            (remaining.filter fun id => decide (id ∉ rows))
            (modified + modifiedBy rows state.outbox))) }
  | finished (run result) :
      OutboxRedriveTransition config state (.finish run)
        { outbox := state.outbox
          runs := Function.update state.runs run (some (.settled result)) }
  | other (action outbox) (performed : perform config action state.outbox = some outbox) :
      OutboxRedriveTransition config state (.other action) { outbox, runs := state.runs }

theorem outboxRedriveStep_eq_some {config : PublisherConfig}
    {state next : OutboxRedriveState Run Instance Payload}
    {label : OutboxRedriveLabel Run Instance Payload}
    (moved : outboxRedriveStep config state label = some next) :
    OutboxRedriveTransition config state label next := by
  cases label with
  | find run input =>
    simp only [outboxRedriveStep] at moved
    split at moved
    · obtain rfl := Option.some.inj moved
      exact .found run input
    · exact absurd moved (Option.some_ne_none next).symm
  | update run rows =>
    simp only [outboxRedriveStep] at moved
    split at moved
    · rename_i input events remaining modified updating
      split at moved
      · rename_i among
        obtain rfl := Option.some.inj moved
        refine .updated run input events remaining modified rows updating fun id member => ?_
        exact of_decide_eq_true (List.all_eq_true.mp among id member)
      · exact absurd moved (Option.some_ne_none next).symm
    · exact absurd moved (Option.some_ne_none next).symm
  | finish run =>
    simp only [outboxRedriveStep] at moved
    split at moved
    · obtain rfl := Option.some.inj moved
      exact .finished run _
    · exact absurd moved (Option.some_ne_none next).symm
  | other action =>
    obtain ⟨outbox, performed, rfl⟩ := Option.map_eq_some_iff.mp moved
    exact .other action outbox performed

/-- A call made with this input previewed these rows at some point of the run. -/
def Previewed (config : PublisherConfig) (start : OutboxCollection Instance Payload)
    (labels : List (OutboxRedriveLabel Run Instance Payload)) (run : Run)
    (input : RedriveFailedOutboxInput)
    (chosen : List (ObjectId × OutboxEventEntity Instance Payload)) : Prop :=
  ∃ earlier later before, labels = earlier ++ .find run input :: later ∧
    Transition.run (outboxRedriveStep config) (.start start) earlier = some before ∧
    redriveQuery input before.outbox = .selected (chosen.map failedEventSummary) ∧
    IsSelection input before.outbox chosen ∧ input.dryRun = false

theorem Previewed.append {config : PublisherConfig}
    {start : OutboxCollection Instance Payload}
    {labels : List (OutboxRedriveLabel Run Instance Payload)} {run : Run}
    {input : RedriveFailedOutboxInput}
    {chosen : List (ObjectId × OutboxEventEntity Instance Payload)}
    (previewed : Previewed config start labels run input chosen)
    (more : List (OutboxRedriveLabel Run Instance Payload)) :
    Previewed config start (labels ++ more) run input chosen := by
  obtain ⟨earlier, later, before, rfl, previewed⟩ := previewed
  exact ⟨earlier, later ++ more, before, by rw [List.append_assoc, List.cons_append], previewed⟩

/-- A step moves no call but its own. -/
theorem OutboxRedriveTransition.runs_of_ne {config : PublisherConfig}
    {state next : OutboxRedriveState Run Instance Payload}
    {label : OutboxRedriveLabel Run Instance Payload}
    (moved : OutboxRedriveTransition config state label next) {run : Run}
    (other : label.run? ≠ some run) : next.runs run = state.runs run := by
  cases moved with
  | found caller => exact Function.update_of_ne (fun same => other (congrArg some same.symm)) _ _
  | updated caller =>
    exact Function.update_of_ne (fun same => other (congrArg some same.symm)) _ _
  | finished caller =>
    exact Function.update_of_ne (fun same => other (congrArg some same.symm)) _ _
  | other => rfl

/-- What is left for an update was previewed by its call. -/
theorem updating_previewed {config : PublisherConfig} {start : OutboxCollection Instance Payload}
    {labels : List (OutboxRedriveLabel Run Instance Payload)}
    {state : OutboxRedriveState Run Instance Payload}
    (reached : Transition.run (outboxRedriveStep config) (.start start) labels = some state)
    {run : Run} {input : RedriveFailedOutboxInput} {events : List OutboxFailedEventSummary}
    {remaining : List ObjectId} {modified : Nat}
    (updating : state.runs run = some (.updating input events remaining modified)) :
    ∃ chosen, Previewed config start labels run input chosen ∧
      ∀ id ∈ remaining, id ∈ chosen.map Prod.fst := by
  induction labels using List.reverseRecOn generalizing state input events remaining modified with
  | nil =>
    obtain rfl := Option.some.inj reached
    exact absurd updating (Option.some_ne_none _).symm
  | append_singleton labels label inductionHypothesis =>
    obtain ⟨before, reachedBefore, moved⟩ := Transition.run_concat_eq_some.mp reached
    have transition := outboxRedriveStep_eq_some moved
    -- A step of another call leaves this one where it was, with what it previewed.
    by_cases caller : label.run? = some run
    · cases transition with
      | found actor asked =>
        obtain rfl := Option.some.inj caller
        dsimp only at updating
        rw [Function.update_self, Option.some_inj] at updating
        cases query : redriveQuery asked before.outbox with
        | settled result =>
          rw [query] at updating
          cases updating
        | selected found =>
          rw [query, RedriveQuery.phase, OutboxRedrivePhase.updating.injEq] at updating
          obtain ⟨rfl, rfl, rfl, _⟩ := updating
          obtain ⟨confirmed, _, chosen, selection, rfl⟩ := redriveQuery_selected query
          refine ⟨chosen,
            ⟨labels, [], before, rfl, reachedBefore, query, selection, confirmed⟩, ?_⟩
          rw [selectedIds_summary]
          exact fun _ member => member
      | updated actor asked found left count rows was among =>
        obtain rfl := Option.some.inj caller
        dsimp only at updating
        rw [Function.update_self, Option.some_inj, OutboxRedrivePhase.updating.injEq] at updating
        obtain ⟨rfl, rfl, rfl, _⟩ := updating
        obtain ⟨chosen, previewed, among⟩ := inductionHypothesis reachedBefore was
        exact ⟨chosen, previewed.append _, fun id member =>
          among id (List.mem_of_mem_filter member)⟩
      | finished actor result =>
        obtain rfl := Option.some.inj caller
        dsimp only at updating
        rw [Function.update_self, Option.some_inj] at updating
        cases updating
      | other => exact absurd caller (Option.some_ne_none run).symm
    · rw [transition.runs_of_ne caller] at updating
      obtain ⟨chosen, previewed, among⟩ := inductionHypothesis reachedBefore updating
      exact ⟨chosen, previewed.append [label], among⟩

/-- What a step of a call does to a row: nothing, or a row that is failed becomes fresh. -/
theorem redrive_step_changes {config : PublisherConfig} {start : OutboxCollection Instance Payload}
    {labels : List (OutboxRedriveLabel Run Instance Payload)}
    {state next : OutboxRedriveState Run Instance Payload}
    {label : OutboxRedriveLabel Run Instance Payload} {run : Run}
    (reached : Transition.run (outboxRedriveStep config) (.start start) labels = some state)
    (moved : outboxRedriveStep config state label = some next) (caller : label.run? = some run)
    (id : ObjectId) :
    next.outbox.find id = state.outbox.find id ∨
      ∃ input chosen row, Previewed config start labels run input chosen ∧
        id ∈ chosen.map Prod.fst ∧ state.outbox.find id = some row ∧ row.status = .failed ∧
        next.outbox.find id = some (freshRow input.now row) := by
  cases outboxRedriveStep_eq_some moved with
  | found => exact Or.inl rfl
  | updated actor input events remaining modified rows updating among =>
    obtain rfl := Option.some.inj caller
    obtain ⟨chosen, previewed, left⟩ := updating_previewed reached updating
    refine (find_redriveSelected rows input.now state.outbox id).imp_right ?_
    rintro ⟨row, member, stored, failed, after⟩
    exact ⟨input, chosen, row, previewed, left id (among id member), stored, failed, after⟩
  | finished => exact Or.inl rfl
  | other => exact absurd caller (Option.some_ne_none run).symm

/-- A call that nobody interferes with does what `redriveFailed` does. -/
theorem run_redriveFailed (config : PublisherConfig) (input : RedriveFailedOutboxInput)
    (state : OutboxRedriveState Run Instance Payload) {run : Run} (new : state.runs run = none) :
    ∃ labels : List (OutboxRedriveLabel Run Instance Payload),
      (∀ label ∈ labels, label.run? = some run) ∧
      Transition.run (outboxRedriveStep config) state labels = some
        { outbox := (redriveFailed input state.outbox).2
          runs := Function.update state.runs run
            (some (.settled (redriveFailed input state.outbox).1)) } := by
  cases query : redriveQuery input state.outbox with
  | settled result =>
    refine ⟨[.find run input], fun label member => ?_, ?_⟩
    · rw [List.mem_singleton.mp member]
      rfl
    · rw [redriveFailed, query]
      simp only [Transition.run, outboxRedriveStep, new, query, RedriveQuery.phase,
        Option.bind_some]
  | selected events =>
    refine ⟨[.find run input, .update run (selectedIds events), .finish run], ?_, ?_⟩
    · simp only [List.forall_mem_cons, OutboxRedriveLabel.run?, List.not_mem_nil, false_imp_iff,
        implies_true, and_self]
    · have all : ((selectedIds events).all fun id => decide (id ∈ selectedIds events)) = true :=
        List.all_eq_true.mpr fun _ member => decide_eq_true member
      have none : ((selectedIds events).filter fun id => decide (id ∉ selectedIds events)) = [] :=
        List.filter_eq_nil_iff.mpr fun id member => by simp [member]
      rw [redriveFailed, query]
      simp only [Transition.run, outboxRedriveStep, new, query, RedriveQuery.phase,
        Option.bind_some, Function.update_self, all, if_true, none, Function.update_idem,
        Nat.zero_add]

/-! ### What the redrive promises -/

variable (Instance Payload Run) in
/-- Alone, a redrive that is no dry run makes the first selected rows fresh, changes nothing
else and counts what it changed; a dry run and an invalid id change nothing. Among any other
writers, the row a call changes is failed at that moment, and one that it previewed. -/
theorem outbox_redrive_resets_selected (config : PublisherConfig) :
    (∀ (input : RedriveFailedOutboxInput) (outbox : OutboxCollection Instance Payload),
      input.dryRun = false → (∀ id ∈ input.ids, ObjectId.isValid id = true) →
        ∃ chosen, IsSelection input outbox chosen ∧
          (∀ others, IsSelection input outbox others → others = chosen) ∧
          (redriveFailed input outbox).1 = .ok
            { events := chosen.map failedEventSummary
              matchedCount := chosen.length
              modifiedCount := chosen.length } ∧
          Resets input.now chosen outbox (redriveFailed input outbox).2) ∧
    (∀ (input : RedriveFailedOutboxInput) (outbox : OutboxCollection Instance Payload),
      input.dryRun = true ∨ (∃ id ∈ input.ids, ObjectId.isValid id = false) →
        (redriveFailed input outbox).2 = outbox) ∧
    ∀ (start : OutboxCollection Instance Payload)
      (labels : List (OutboxRedriveLabel Run Instance Payload))
      (state next : OutboxRedriveState Run Instance Payload)
      (label : OutboxRedriveLabel Run Instance Payload) (run : Run),
      Transition.run (outboxRedriveStep config) (.start start) labels = some state →
        outboxRedriveStep config state label = some next → label.run? = some run → ∀ id,
          next.outbox.find id = state.outbox.find id ∨
            ∃ input chosen row, Previewed config start labels run input chosen ∧
              id ∈ chosen.map Prod.fst ∧ state.outbox.find id = some row ∧
              row.status = .failed ∧ next.outbox.find id = some (freshRow input.now row) := by
  refine ⟨fun input outbox confirmed valid => ?_,
    fun _ outbox refused => redriveFailed_unchanged refused outbox, ?_⟩
  · obtain ⟨chosen, selection, result, resets⟩ := redriveFailed_valid confirmed valid outbox
    exact ⟨chosen, selection, fun _ other => Keyset.First.unique other selection, result, resets⟩
  · intro start labels state next label run reached moved caller id
    exact redrive_step_changes reached moved caller id

end Steps

/-- A row that failed, due again at this time. -/
def failedRow (nextAttemptAt : Int) : OutboxEventEntity Bool Unit where
  eventId := []
  eventType := []
  eventVersion := 1
  topic := []
  key := []
  payload := ()
  status := .failed
  attempts := 10
  nextAttemptAt
  lockedBy := none
  lockedAt := none
  lastError := some []
  createdAt := 1
  publishedAt := none

def twoFailedRows : OutboxCollection Bool Unit :=
  (Collection.empty.insert 1 (failedRow 5) List.not_mem_nil).insert 2 (failedRow 5) (by decide)

/-- Another redrive and a publisher take the first row between the query and the update. -/
def redriveInterleaved : List (OutboxRedriveLabel Bool Bool Unit) :=
  [.find true { dryRun := false, eventIds := [], ids := [], limit := none, now := 9 },
    .other (.redriveFailed [1] 7), .other (.claim true 8)]

theorem outbox_redrive_leaves_claimed :
    ∃ state next, Transition.run (outboxRedriveStep .default) (.start twoFailedRows)
        redriveInterleaved = some state ∧
      outboxRedriveStep .default state (.update true [2, 1]) = some next ∧
      (state.outbox.find 1).any (fun row => decide (row.status = .publishing)) = true ∧
      next.outbox.find 1 = state.outbox.find 1 := by
  have runs : (Transition.run (outboxRedriveStep .default) (.start twoFailedRows)
      redriveInterleaved).any (fun state =>
        ((state.outbox.find 1).any fun row => decide (row.status = .publishing)) &&
          (outboxRedriveStep .default state (.update true [2, 1])).isSome) = true := by
    decide +kernel
  obtain ⟨state, reached, both⟩ := (Option.any_eq_true _ _).mp runs
  rw [Bool.and_eq_true] at both
  obtain ⟨next, moved⟩ := Option.isSome_iff_exists.mp both.2
  refine ⟨state, next, reached, moved, both.1, ?_⟩
  rcases (outbox_redrive_resets_selected Bool Unit Bool .default).2.2 twoFailedRows
    redriveInterleaved state next _ true reached moved rfl 1 with
    same | ⟨_, _, row, _, _, stored, failed, _⟩
  · exact same
  · rw [stored, Option.any_some, failed] at both
    exact absurd both.1 (by decide)

end MessageManagement
