/-
This file models `outbox:inspect` and the gauges of the publisher, and proves that
they tell what redrives do.

The failed rows that an inspection lists are those that the next confirmed redrives
reset, in this order. Each redrive with a limit takes the first of them and leaves
the rest as the failed rows of the next one, so that redrives one after the other
walk through the failed rows, and the counts follow.
-/

import MessageManagement.RedriveCommands

namespace MessageManagement

variable {Instance Payload : Type}

/-! ### Inspections -/

structure OutboxCounts where
  failed : Nat
  pending : Nat
  published : Nat
  publishing : Nat
deriving DecidableEq

structure OutboxInspection where
  counts : OutboxCounts
  oldestPendingAgeSeconds : Option Int
  failedEvents : List OutboxFailedEventSummary

/-- `countDocuments({ status })`. -/
def countDocuments (status : OutboxEventStatus) (outbox : OutboxCollection Instance Payload) :
    Nat :=
  (outbox.select fun _ row => row.status == status).length

def countByStatus (outbox : OutboxCollection Instance Payload) : OutboxCounts where
  failed := countDocuments .failed outbox
  pending := countDocuments .pending outbox
  published := countDocuments .published outbox
  publishing := countDocuments .publishing outbox

/-- The `createdAt` of the first pending row in the order of `createdAt`. -/
def oldestPendingCreatedAt (outbox : OutboxCollection Instance Payload) : Option Int :=
  ((outbox.entries.filter fun document => document.2.status == .pending).map
    (·.2.createdAt)).min?

/-- `inspect`, when no writer acts during the call. -/
def inspect (failedLimit : Nat) (now : Int) (outbox : OutboxCollection Instance Payload) :
    OutboxInspection where
  counts := countByStatus outbox
  oldestPendingAgeSeconds := (oldestPendingCreatedAt outbox).map fun createdAt =>
    max 0 ((now - createdAt) / 1000)
  failedEvents := findFailedEvents (fun _ _ => true) (some failedLimit) outbox

/-! ### The gauges -/

structure OutboxPendingStats where
  pendingCount : Nat
  oldestPendingCreatedAt : Option Int

def getPendingStats (outbox : OutboxCollection Instance Payload) : OutboxPendingStats where
  pendingCount := countDocuments .pending outbox
  oldestPendingCreatedAt := oldestPendingCreatedAt outbox

/-- What `updatePendingMetrics` sets the gauges to. -/
def pendingMetrics (now : Int) (stats : OutboxPendingStats) : Nat × ℚ :=
  (stats.pendingCount,
    match stats.oldestPendingCreatedAt with
    | none => 0
    | some createdAt => max 0 (((now - createdAt : Int) : ℚ) / 1000))

/-- An inspection shows what the gauges of a publisher show at that time, in whole seconds. -/
theorem inspect_pendingMetrics (failedLimit : Nat) (now : Int)
    (outbox : OutboxCollection Instance Payload) :
    (inspect failedLimit now outbox).counts.pending =
        (pendingMetrics now (getPendingStats outbox)).1 ∧
      (inspect failedLimit now outbox).oldestPendingAgeSeconds.getD 0 =
        ⌊(pendingMetrics now (getPendingStats outbox)).2⌋ := by
  refine ⟨rfl, ?_⟩
  rw [inspect, pendingMetrics, getPendingStats]
  dsimp only
  cases oldestPendingCreatedAt outbox with
  | none => exact (Int.floor_zero).symm
  | some createdAt =>
    have seconds : ⌊((now - createdAt : Int) : ℚ) / 1000⌋ = (now - createdAt) / 1000 :=
      Rat.floor_intCast_div_natCast (now - createdAt) 1000
    dsimp only [Option.map_some, Option.getD_some]
    rw [← seconds]
    exact (Int.floor_mono.map_max.trans (by rw [Int.floor_zero])).symm

/-! ### Redrives one after the other -/

/-- The input of a redrive with `--confirm` and `--limit`. -/
def limitedRedrive (limit : Nat) (now : Int) : RedriveFailedOutboxInput where
  dryRun := false
  eventIds := []
  ids := []
  limit := some limit
  now

example (limit : Nat) (now : Int) :
    OutboxRedriveOptions.input ⟨some true, none, none, none, some limit⟩ now =
      .ok (limitedRedrive limit now) := rfl

/-- Such redrives at these times, with what they return. -/
def redriveBatches (limit : Nat) :
    List Int → OutboxCollection Instance Payload →
      List (Except SelectionError RedriveFailedOutboxResult) × OutboxCollection Instance Payload
  | [], outbox => ([], outbox)
  | now :: rest, outbox =>
    let first := redriveFailed (limitedRedrive limit now) outbox
    let later := redriveBatches limit rest first.2
    (first.1 :: later.1, later.2)

/-- The failed rows, in the order in which they are listed and redriven. -/
def failedRows (outbox : OutboxCollection Instance Payload) :
    List (ObjectId × OutboxEventEntity Instance Payload) :=
  failedDocuments (fun _ _ => true) none outbox

/-! ### The failed rows -/

section Rows

variable {outbox next : OutboxCollection Instance Payload} {now : Int} {limit : Nat}
  {chosen : List (ObjectId × OutboxEventEntity Instance Payload)}

/-- Nothing but the status selects a failed row. -/
theorem selects_iff_failed {input : RedriveFailedOutboxInput} (ids : input.ids = [])
    (eventIds : input.eventIds = []) (id : ObjectId) (row : OutboxEventEntity Instance Payload) :
    Selects input id row ↔ row.status = .failed :=
  ⟨And.left, fun failed => ⟨failed, Or.inl ⟨ids, eventIds⟩⟩⟩

theorem isSelection_failedRows (outbox : OutboxCollection Instance Payload) :
    IsSelection { dryRun := false, eventIds := [], ids := [], limit := none, now := 0 } outbox
      (failedRows outbox) := by
  refine isSelection_failedDocuments (fun id row => ?_) outbox
  rw [Bool.true_and, beq_iff_eq]
  exact (selects_iff_failed rfl rfl id row).symm

theorem first_failedRows (outbox : OutboxCollection Instance Payload) :
    Keyset.First failedSortKey none
      (fun document => outbox.find document.1 = some document.2 ∧ document.2.status = .failed)
      (failedRows outbox) :=
  (isSelection_failedRows outbox).congr fun document =>
    and_congr_right fun _ => selects_iff_failed rfl rfl document.1 document.2

theorem mem_failedRows {document : ObjectId × OutboxEventEntity Instance Payload} :
    document ∈ failedRows outbox ↔
      outbox.find document.1 = some document.2 ∧ document.2.status = .failed := by
  constructor
  · exact (first_failedRows outbox).matched document
  · intro isFailed
    refine ((first_failedRows outbox).complete document isFailed).resolve_right ?_
    rintro ⟨limited, _⟩
    cases limited

theorem failedDocuments_limit (positive : 1 ≤ limit) (outbox : OutboxCollection Instance Payload) :
    failedDocuments (fun _ _ => true) (some limit) outbox = (failedRows outbox).take limit :=
  if_neg (by omega)

/-- Once the first failed rows are reset, the rest of them are failed. -/
theorem failedRows_of_resets (resets : Resets now ((failedRows outbox).take limit) outbox next) :
    failedRows next = (failedRows outbox).drop limit := by
  have distinct := (isSelection_failedRows outbox).distinct
  rw [← List.take_append_drop limit (failedRows outbox), List.map_append] at distinct
  have apart := (List.nodup_append'.mp distinct).2.2
  refine (first_failedRows next).unique ⟨?_, ?_, ?_, ?_⟩
  · exact (first_failedRows outbox).ordered.sublist (List.drop_sublist _ _)
  · intro document member
    obtain ⟨stored, failed⟩ := mem_failedRows.mp (List.mem_of_mem_drop member)
    refine ⟨?_, failed⟩
    rw [resets.others _ fun reset => apart reset (List.mem_map_of_mem member)]
    exact stored
  · intro bound limited
    cases limited
  · rintro document ⟨stored, failed⟩
    by_cases reset : document.1 ∈ ((failedRows outbox).take limit).map Prod.fst
    · obtain ⟨other, isOther, sameId⟩ := List.mem_map.mp reset
      rw [← sameId, resets.reset other isOther, Option.some_inj] at stored
      rw [← stored] at failed
      cases failed
    · rw [resets.others _ reset] at stored
      have member := mem_failedRows.mpr ⟨stored, failed⟩
      rw [← List.take_append_drop limit (failedRows outbox), List.mem_append] at member
      exact Or.inl (member.resolve_left fun first => reset (List.mem_map_of_mem first))

/-- A redrive resets the first failed rows. -/
theorem redriveFailed_limited (positive : 1 ≤ limit) (now : Int)
    (outbox : OutboxCollection Instance Payload) :
    (redriveFailed (limitedRedrive limit now) outbox).1 = .ok
        { events := ((failedRows outbox).take limit).map failedEventSummary
          matchedCount := ((failedRows outbox).take limit).length
          modifiedCount := ((failedRows outbox).take limit).length } ∧
      Resets now ((failedRows outbox).take limit) outbox
        (redriveFailed (limitedRedrive limit now) outbox).2 := by
  have valid : ∀ id ∈ (limitedRedrive limit now).ids, ObjectId.isValid id = true :=
    fun id member => absurd member List.not_mem_nil
  obtain ⟨chosen, selection, result, resets⟩ := redriveFailed_valid rfl valid outbox
  have isFirst : Keyset.First failedSortKey (some limit)
      (fun document => document ∈ failedRows outbox) ((failedRows outbox).take limit) :=
    Keyset.first_take (first_failedRows outbox).ordered limit
  have same : chosen = (failedRows outbox).take limit := by
    have limited : (limitedRedrive limit now).rowLimit = some limit := by
      rw [RedriveFailedOutboxInput.rowLimit]
      exact Option.filter_some.trans (if_pos (decide_eq_true positive))
    rw [IsSelection, limited] at selection
    refine selection.unique (isFirst.congr fun document => ?_)
    rw [mem_failedRows, selects_iff_failed rfl rfl]
  rw [← same]
  exact ⟨result, resets⟩

/-! ### The counts -/

/-- Every row has one status. -/
theorem length_select_status (keys : List ObjectId)
    (find : ObjectId → Option (OutboxEventEntity Instance Payload)) :
    (keys.filter fun key => (find key).any (·.status == .pending)).length +
        (keys.filter fun key => (find key).any (·.status == .publishing)).length +
        (keys.filter fun key => (find key).any (·.status == .published)).length +
        (keys.filter fun key => (find key).any (·.status == .failed)).length =
      (keys.filter fun key => (find key).isSome).length := by
  induction keys with
  | nil => rfl
  | cons key rest inductionHypothesis =>
    simp only [List.filter_cons]
    cases find key with
    | none => simpa using inductionHypothesis
    | some row =>
      cases status : row.status <;> simp [status] <;> omega

/-- The counts add up to the number of rows. -/
theorem countByStatus_sum (outbox : OutboxCollection Instance Payload) :
    (countByStatus outbox).pending + (countByStatus outbox).publishing +
        (countByStatus outbox).published + (countByStatus outbox).failed =
      (outbox.keys.filter fun key => (outbox.find key).isSome).length :=
  length_select_status outbox.keys outbox.find

theorem countByStatus_failed (outbox : OutboxCollection Instance Payload) :
    (countByStatus outbox).failed = (failedRows outbox).length := by
  rw [← List.length_map Prod.fst]
  refine List.Perm.length_eq ((List.perm_ext_iff_of_nodup (outbox.nodup_select _)
    (isSelection_failedRows outbox).distinct).mpr fun id => ?_)
  rw [Collection.mem_select, List.mem_map]
  constructor
  · rintro ⟨row, stored, failed⟩
    exact ⟨(id, row), mem_failedRows.mpr ⟨stored, beq_iff_eq.mp failed⟩, rfl⟩
  · rintro ⟨document, member, rfl⟩
    obtain ⟨stored, failed⟩ := mem_failedRows.mp member
    exact ⟨document.2, stored, beq_iff_eq.mpr failed⟩

/-- What resets do to the counts. -/
structure Recounts (resets : Nat) (before after : OutboxCounts) : Prop where
  failed : before.failed = resets + after.failed
  pending : after.pending = before.pending + resets
  published : after.published = before.published
  publishing : after.publishing = before.publishing

theorem Recounts.trans {first second : Nat} {before middle after : OutboxCounts}
    (recounts : Recounts first before middle) (later : Recounts second middle after) :
    Recounts (first + second) before after where
  failed := by rw [recounts.failed, later.failed, Nat.add_assoc]
  pending := by rw [later.pending, recounts.pending, Nat.add_assoc]
  published := later.published.trans recounts.published
  publishing := later.publishing.trans recounts.publishing

/-- A row that was not failed is as it was. -/
theorem Resets.find_of_not_failed (resets : Resets now ((failedRows outbox).take limit) outbox next)
    {id : ObjectId} {row : OutboxEventEntity Instance Payload}
    (stored : outbox.find id = some row) (live : row.status ≠ .failed) :
    next.find id = some row := by
  rw [resets.others id, stored]
  intro reset
  obtain ⟨document, member, rfl⟩ := List.mem_map.mp reset
  obtain ⟨isStored, failed⟩ := mem_failedRows.mp (List.mem_of_mem_take member)
  rw [stored, Option.some_inj] at isStored
  exact live (isStored ▸ failed)

/-- A row that is neither pending nor failed was so before. -/
theorem countDocuments_of_resets
    (resets : Resets now ((failedRows outbox).take limit) outbox next) {status : OutboxEventStatus}
    (notPending : status ≠ .pending) (notFailed : status ≠ .failed) :
    countDocuments status next = countDocuments status outbox := by
  refine List.Perm.length_eq ((List.perm_ext_iff_of_nodup (next.nodup_select _)
    (outbox.nodup_select _)).mpr fun id => ?_)
  rw [Collection.mem_select, Collection.mem_select]
  constructor
  · rintro ⟨row, stored, isStatus⟩
    by_cases reset : id ∈ ((failedRows outbox).take limit).map Prod.fst
    · obtain ⟨document, member, rfl⟩ := List.mem_map.mp reset
      rw [resets.reset document member, Option.some_inj] at stored
      rw [← stored, beq_iff_eq] at isStatus
      exact absurd isStatus.symm notPending
    · exact ⟨row, (resets.others id reset).symm.trans stored, isStatus⟩
  · rintro ⟨row, stored, isStatus⟩
    refine ⟨row, resets.find_of_not_failed stored ?_, isStatus⟩
    rw [beq_iff_eq.mp isStatus]
    exact notFailed

theorem recounts_of_resets (resets : Resets now ((failedRows outbox).take limit) outbox next) :
    Recounts ((failedRows outbox).take limit).length (countByStatus outbox)
      (countByStatus next) := by
  have failed : (countByStatus outbox).failed =
      ((failedRows outbox).take limit).length + (countByStatus next).failed := by
    rw [countByStatus_failed, countByStatus_failed, failedRows_of_resets resets,
      ← List.length_append, List.take_append_drop]
  have published : (countByStatus next).published = (countByStatus outbox).published :=
    countDocuments_of_resets resets (by decide) (by decide)
  have publishing : (countByStatus next).publishing = (countByStatus outbox).publishing :=
    countDocuments_of_resets resets (by decide) (by decide)
  refine ⟨failed, ?_, published, publishing⟩
  -- the rows are the same, so what is not failed any more is pending
  have sameRows : (next.keys.filter fun key => (next.find key).isSome).length =
      (outbox.keys.filter fun key => (outbox.find key).isSome).length := by
    rw [resets.keys]
    refine congrArg List.length (List.filter_congr fun id _ => ?_)
    by_cases reset : id ∈ ((failedRows outbox).take limit).map Prod.fst
    · obtain ⟨document, member, rfl⟩ := List.mem_map.mp reset
      rw [resets.reset document member,
        (mem_failedRows.mp (List.mem_of_mem_take member)).1]
      rfl
    · rw [resets.others id reset]
  have before := countByStatus_sum outbox
  have after := countByStatus_sum next
  omega

/-! ### The oldest pending row -/

theorem oldestPendingCreatedAt_le {id : ObjectId} {row : OutboxEventEntity Instance Payload}
    (stored : outbox.find id = some row) (pending : row.status = .pending) :
    ∃ createdAt, oldestPendingCreatedAt outbox = some createdAt ∧ createdAt ≤ row.createdAt := by
  have member : row.createdAt ∈ (outbox.entries.filter fun document =>
      document.2.status == .pending).map (·.2.createdAt) :=
    List.mem_map.mpr ⟨(id, row), List.mem_filter.mpr
      ⟨Collection.mem_entries.mpr stored, beq_iff_eq.mpr pending⟩, rfl⟩
  cases oldest : oldestPendingCreatedAt outbox with
  | none =>
    rw [List.min?_eq_none_iff.mp oldest] at member
    exact absurd member List.not_mem_nil
  | some createdAt => exact ⟨createdAt, rfl, (List.min?_eq_some_iff.mp oldest).2 _ member⟩

theorem exists_of_oldestPendingCreatedAt {createdAt : Int}
    (oldest : oldestPendingCreatedAt outbox = some createdAt) :
    ∃ id row, outbox.find id = some row ∧ row.status = .pending ∧ row.createdAt = createdAt := by
  obtain ⟨document, member, same⟩ := List.mem_map.mp (List.min?_eq_some_iff.mp oldest).1
  obtain ⟨isEntry, pending⟩ := List.mem_filter.mp member
  exact ⟨document.1, document.2, Collection.mem_entries.mp isEntry, beq_iff_eq.mp pending, same⟩

/-- A row that waits goes on waiting, so the oldest pending row gets no younger. -/
theorem oldestPendingCreatedAt_of_resets
    (resets : Resets now ((failedRows outbox).take limit) outbox next) {createdAt : Int}
    (oldest : oldestPendingCreatedAt outbox = some createdAt) :
    ∃ earlier, oldestPendingCreatedAt next = some earlier ∧ earlier ≤ createdAt := by
  obtain ⟨id, row, stored, pending, rfl⟩ := exists_of_oldestPendingCreatedAt oldest
  refine oldestPendingCreatedAt_le (resets.find_of_not_failed stored ?_) pending
  rw [pending]
  decide

/-! ### The walk -/

/-- The failed rows that are the turn of a redrive. -/
def redriveBatch (limit index : Nat) (outbox : OutboxCollection Instance Payload) :
    List (ObjectId × OutboxEventEntity Instance Payload) :=
  ((failedRows outbox).drop (index * limit)).take limit

/-- Redrives at these times reset the failed rows batch by batch: each returns its batch and makes
it fresh at its time, and an inspection lists the failed rows whose turn is still to come. What was
pending before still waits. -/
structure RedriveWalk (limit : Nat) (times : List Int) (outbox : OutboxCollection Instance Payload)
    (results : List (Except SelectionError RedriveFailedOutboxResult))
    (final : OutboxCollection Instance Payload) : Prop where
  returned : results = (List.range times.length).map fun index => .ok
    { events := (redriveBatch limit index outbox).map failedEventSummary
      matchedCount := (redriveBatch limit index outbox).length
      modifiedCount := (redriveBatch limit index outbox).length }
  reset : ∀ index now, times[index]? = some now → ∀ document ∈ redriveBatch limit index outbox,
    final.find document.1 = some (freshRow now document.2)
  others : ∀ id, id ∉ ((failedRows outbox).take (times.length * limit)).map Prod.fst →
    final.find id = outbox.find id
  counts : Recounts ((failedRows outbox).take (times.length * limit)).length
    (countByStatus outbox) (countByStatus final)
  listed : ∀ failedLimit now, 1 ≤ failedLimit → (inspect failedLimit now final).failedEvents =
    (((failedRows outbox).drop (times.length * limit)).take failedLimit).map failedEventSummary
  waiting : ∀ failedLimit now age,
    (inspect failedLimit now outbox).oldestPendingAgeSeconds = some age →
      ∃ later, (inspect failedLimit now final).oldestPendingAgeSeconds = some later ∧ age ≤ later

theorem RedriveWalk.nil (limit : Nat) (outbox : OutboxCollection Instance Payload) :
    RedriveWalk limit [] outbox [] outbox where
  returned := rfl
  reset _ _ absent := by cases absent
  others _ _ := rfl
  counts := by
    rw [List.length_nil, Nat.zero_mul, List.take_zero]
    exact ⟨(Nat.zero_add _).symm, rfl, rfl, rfl⟩
  listed failedLimit now least := by
    rw [List.length_nil, Nat.zero_mul, List.drop_zero, inspect, findFailedEvents,
      failedDocuments_limit least]
  waiting _ _ age oldest := ⟨age, oldest, le_rfl⟩

/-- The age that an inspection shows grows with the reset rows. -/
theorem inspect_waiting (resets : Resets now ((failedRows outbox).take limit) outbox next)
    (failedLimit : Nat) (clock age : Int)
    (oldest : (inspect failedLimit clock outbox).oldestPendingAgeSeconds = some age) :
    ∃ later, (inspect failedLimit clock next).oldestPendingAgeSeconds = some later ∧
      age ≤ later := by
  obtain ⟨createdAt, isOldest, rfl⟩ := Option.map_eq_some_iff.mp oldest
  obtain ⟨earlier, isEarlier, before⟩ := oldestPendingCreatedAt_of_resets resets isOldest
  refine ⟨max 0 ((clock - earlier) / 1000), ?_, ?_⟩
  · rw [inspect, isEarlier, Option.map_some]
  · exact max_le_max (le_refl 0) (Int.ediv_le_ediv (by decide) (by omega))

/-- A redrive before a walk. -/
theorem RedriveWalk.cons {times : List Int}
    {results : List (Except SelectionError RedriveFailedOutboxResult)}
    {final : OutboxCollection Instance Payload}
    (resets : Resets now ((failedRows outbox).take limit) outbox next)
    (walk : RedriveWalk limit times next results final) :
    RedriveWalk limit (now :: times) outbox
      (.ok
        { events := ((failedRows outbox).take limit).map failedEventSummary
          matchedCount := ((failedRows outbox).take limit).length
          modifiedCount := ((failedRows outbox).take limit).length } :: results) final := by
  have failed : failedRows next = (failedRows outbox).drop limit := failedRows_of_resets resets
  have first : redriveBatch limit 0 outbox = (failedRows outbox).take limit := by
    rw [redriveBatch, Nat.zero_mul, List.drop_zero]
  have batch : ∀ index, redriveBatch limit index next = redriveBatch limit (index + 1) outbox := by
    intro index
    rw [redriveBatch, redriveBatch, failed, List.drop_drop, Nat.succ_mul, Nat.add_comm]
  have rows : (failedRows outbox).take ((now :: times).length * limit) =
      (failedRows outbox).take limit ++ (failedRows next).take (times.length * limit) := by
    rw [List.length_cons, Nat.succ_mul, Nat.add_comm, List.take_add, failed]
  refine ⟨?_, ?_, fun id other => ?_, ?_, fun failedLimit clock least => ?_,
    fun failedLimit clock age oldest => ?_⟩
  · rw [List.length_cons, List.range_succ_eq_map, List.map_cons, List.map_map, first,
      walk.returned]
    refine congrArg _ (List.map_congr_left fun index _ => ?_)
    rw [Function.comp_apply, batch]
  · intro index time isTime document member
    cases index with
    | zero =>
      obtain rfl := Option.some.inj isTime
      rw [first] at member
      have fresh := resets.reset document member
      -- a fresh row is not failed, so the walk leaves it alone
      rw [walk.others document.1, fresh]
      intro again
      obtain ⟨other, isOther, sameId⟩ := List.mem_map.mp again
      obtain ⟨stored, isFailed⟩ := mem_failedRows.mp (List.mem_of_mem_take isOther)
      rw [sameId, fresh, Option.some_inj] at stored
      rw [← stored] at isFailed
      cases isFailed
    | succ index => exact walk.reset index time isTime document (batch index ▸ member)
  · rw [rows, List.map_append, List.mem_append, not_or] at other
    rw [walk.others id other.2, resets.others id other.1]
  · rw [rows, List.length_append]
    exact (recounts_of_resets resets).trans walk.counts
  · rw [walk.listed failedLimit clock least, failed, List.drop_drop, List.length_cons,
      Nat.succ_mul, Nat.add_comm]
  · obtain ⟨between, isBetween, before⟩ := inspect_waiting resets failedLimit clock age oldest
    obtain ⟨later, isLater, after⟩ := walk.waiting failedLimit clock between isBetween
    exact ⟨later, isLater, le_trans before after⟩

end Rows

/-- Whatever the outbox holds, and however many redrives with a limit there are. -/
theorem outbox_redrives_walk {limit : Nat} (positive : 1 ≤ limit) (times : List Int)
    (outbox : OutboxCollection Instance Payload) :
    RedriveWalk limit times outbox (redriveBatches limit times outbox).1
      (redriveBatches limit times outbox).2 := by
  induction times generalizing outbox with
  | nil => exact .nil limit outbox
  | cons now rest inductionHypothesis =>
    obtain ⟨result, resets⟩ := redriveFailed_limited positive now outbox
    rw [redriveBatches, result]
    exact .cons resets (inductionHypothesis _)

/-- One redrive resets the first of two rows, the next one the other. -/
theorem outbox_redrives_walk_two :
    (((redriveBatches 1 [7, 8] twoFailedRows).2.find 2).any fun row =>
        decide (row.status = .pending ∧ row.nextAttemptAt = 8)) = true ∧
      RedriveWalk 1 [7, 8] twoFailedRows (redriveBatches 1 [7, 8] twoFailedRows).1
        (redriveBatches 1 [7, 8] twoFailedRows).2 :=
  ⟨by decide +kernel, outbox_redrives_walk (le_refl 1) [7, 8] twoFailedRows⟩

end MessageManagement
