/-
This file proves that no row of the outbox gets stuck: in every state that the
publishers reach, whatever crashed or failed before, one instance whose requests
are answered publishes every row that is neither published nor failed, in the
order of the `_id`s and each with one send.

The runs of that instance are composed from the loop of claims and the loop of
sends. Each takes the first due rows, which from some instant on are all rows
that wait, whatever the clock shows at a step, and what it published waits no
more: the waiting rows shrink from below by a batch a run.

The instant is after the last lease by the lock timeout. It is an integer here, and
a `Date` for lock timeouts far below its range of 8.64e15 ms.
-/

import MessageManagement.ClaimPublishable
import MessageManagement.Publisher

namespace MessageManagement

variable {Instance Payload : Type}

/-! ### A run that is not disturbed -/

/-- The passes of `claimPublishable`, the last of which claims nothing: no row is due, or the batch
is full. -/
def claimActions (publisher : Instance) (count : Nat) :
    List (PublisherAction Instance Payload) :=
  List.replicate (count + 1) (.claim publisher)

/-- The sends of `runOnce` are acknowledged, and what was sent is marked. -/
def publishActions (publisher : Instance) (count : Nat) :
    List (PublisherAction Instance Payload) :=
  (List.replicate count [.send publisher .acknowledged, .markPublished publisher]).flatten

/-- A `runOnce` that claims this many rows. -/
def runOnceActions (publisher : Instance) (count : Nat) :
    List (PublisherAction Instance Payload) :=
  .startRun publisher ::
    (claimActions publisher count ++ publishActions publisher count ++ [.finishRun publisher])

/-- The steps one after another, each with what the clock shows then. -/
def timed (clock : Nat → Int) (actions : List (PublisherAction Instance Payload)) :
    List (PublisherLabel Instance Payload) :=
  actions.mapIdx fun step action => ⟨clock step, action⟩

/-- What the clock shows after so many steps. -/
def readingsFrom (clock : Nat → Int) (steps : Nat) : Nat → Int := fun step => clock (step + steps)

theorem timed_cons (clock : Nat → Int) (action : PublisherAction Instance Payload)
    (rest : List (PublisherAction Instance Payload)) :
    timed clock (action :: rest) = ⟨clock 0, action⟩ :: timed (readingsFrom clock 1) rest :=
  List.mapIdx_cons

theorem timed_append (clock : Nat → Int) (first second : List (PublisherAction Instance Payload)) :
    timed clock (first ++ second) = timed clock first ++
      timed (readingsFrom clock first.length) second :=
  List.mapIdx_append

/-- A step of a timed run is one of its actions. -/
theorem action_mem_of_mem_timed {clock : Nat → Int}
    {actions : List (PublisherAction Instance Payload)} {label : PublisherLabel Instance Payload}
    (member : label ∈ timed clock actions) : label.action ∈ actions := by
  obtain ⟨step, bound, rfl⟩ := List.mem_mapIdx.mp member
  exact List.getElem_mem bound

/-- The `_id` of the event that a step sends. -/
def sentIds (state : PublisherState Instance Payload) (label : PublisherLabel Instance Payload) :
    List ObjectId :=
  match label.action with
  | .send publisher _ =>
    match state.phase publisher with
    | .publishing (current :: _) => [current.event.id]
    | _ => []
  | _ => []

variable [DecidableEq Instance] {config : PublisherConfig} {publisher : Instance} {now : Int}
  {clock : Nat → Int} {state next : PublisherState Instance Payload}

/-! ### The loop of claims -/

/-- What the loop of claims leaves: the collection, the snapshots it hands to the loop of sends, and
the other instances as they were. -/
structure ClaimsBatch (config : PublisherConfig) (publisher : Instance) (now : Int)
    (clock : Nat → Int) (state : PublisherState Instance Payload) (remaining : Nat)
    (claimed batch : List (ClaimedEvent Instance Payload))
    (next : PublisherState Instance Payload) : Prop where
  reached : Transition.run (publisherStep config) state (timed clock (claimActions publisher
    (claimLoop (config.claimInput publisher now) remaining state.outbox).1.length)) = some next
  outbox : next.outbox = (claimLoop (config.claimInput publisher now) remaining state.outbox).2
  phase : next.phase publisher = .publishing batch
  others : ∀ other, other ≠ publisher → next.phase other = state.phase other
  events : batch.map (·.event) = claimed.map (·.event) ++
    (claimLoop (config.claimInput publisher now) remaining state.outbox).1

/-- Where the loop starts with nothing, its batch is what it claims. -/
theorem ClaimsBatch.length_batch {remaining : Nat} {batch : List (ClaimedEvent Instance Payload)}
    (claims : ClaimsBatch config publisher now clock state remaining [] batch next) :
    batch.length =
      (claimLoop (config.claimInput publisher now) remaining state.outbox).1.length := by
  have events : batch.map (·.event) =
      (claimLoop (config.claimInput publisher now) remaining state.outbox).1 := claims.events
  rw [← events, List.length_map]

/-- The last pass claims nothing. -/
theorem ClaimsBatch.stop {remaining : Nat} {claimed : List (ClaimedEvent Instance Payload)}
    (nothing : claimLoop (config.claimInput publisher now) remaining state.outbox =
      ([], state.outbox))
    (moved : publisherStep config state ⟨clock 0, .claim publisher⟩ =
      some (state.setPhase publisher (.publishing claimed))) :
    ClaimsBatch config publisher now clock state remaining claimed claimed
      (state.setPhase publisher (.publishing claimed)) where
  reached := by
    rw [nothing, claimActions, List.length_nil, Nat.zero_add, List.replicate_one, timed_cons,
      Transition.run, moved]
    rfl
  outbox := by
    rw [nothing]
    rfl
  phase := if_pos rfl
  others _ different := if_neg different
  events := by rw [nothing, List.append_nil]

/-- The passes of an instance alone are the loop of `claimPublishable`, at the instant at which the
run started. -/
theorem run_claims {remaining : Nat} {claimed : List (ClaimedEvent Instance Payload)}
    (was : state.phase publisher = .claiming now claimed)
    (left : claimed.length + remaining = config.batchSize) :
    ∃ batch next, ClaimsBatch config publisher now clock state remaining claimed batch next := by
  induction remaining generalizing state claimed clock with
  | zero =>
    refine ⟨claimed, _, .stop rfl ?_⟩
    simp only [publisherStep, was]
    rw [if_neg (by omega)]
  | succ remaining inductionHypothesis =>
    cases found : claimOne (config.claimInput publisher now) state.outbox with
    | none =>
      refine ⟨claimed, _, .stop ?_ ?_⟩
      · rw [claimLoop, found]
      · simp only [publisherStep, was]
        rw [if_pos (by omega), found]
    | some result =>
      obtain ⟨event, outbox⟩ := result
      obtain ⟨written, wrote⟩ : ∃ written, state.write config (.claim publisher now) =
          some written := by
        rw [PublisherState.write, perform, found]
        exact ⟨_, rfl⟩
      obtain ⟨performed, phases, _⟩ := write_eq_some wrote
      have isOutbox : written.outbox = outbox := by
        rw [perform, found] at performed
        exact (Option.some.inj performed).symm
      let more := claimed ++ [⟨event, (state.history event.id).claims + 1⟩]
      let after := written.setPhase publisher (.claiming now more)
      have moved : publisherStep config state ⟨clock 0, .claim publisher⟩ = some after := by
        simp only [publisherStep, was]
        rw [if_pos (by omega), found]
        dsimp only
        rw [wrote, Option.map_some]
      have wasAfter : after.phase publisher = .claiming now more := if_pos rfl
      have leftAfter : more.length + remaining = config.batchSize := by
        rw [List.length_append, List.length_singleton]
        omega
      obtain ⟨batch, next, reached, leaves, phase, others, events⟩ :=
        inductionHypothesis wasAfter leftAfter
      rw [show after.outbox = outbox from isOutbox] at reached leaves events
      refine ⟨batch, next, ?_, ?_, phase, fun other different => ?_, ?_⟩
      · rw [claimLoop, found]
        dsimp only
        rw [claimActions, List.length_cons, List.replicate_succ, timed_cons, Transition.run, moved]
        exact reached
      · rw [claimLoop, found]
        exact leaves
      · rw [others other different]
        refine (if_neg different).trans ?_
        rw [phases]
      · rw [claimLoop, found, events, List.map_append, List.append_assoc]
        rfl

/-! ### The loop of sends -/

/-- What the loop of sends leaves: every row of the batch is published, with one send in its
place. -/
structure SendsBatch (config : PublisherConfig) (publisher : Instance) (clock : Nat → Int)
    (state : PublisherState Instance Payload) (batch : List (ClaimedEvent Instance Payload))
    (next : PublisherState Instance Payload) : Prop where
  reached : Transition.run (publisherStep config) state
    (timed clock (publishActions publisher batch.length)) = some next
  phase : next.phase publisher = .publishing []
  phases : ∀ other, other ≠ publisher → next.phase other = state.phase other
  published : ∀ id ∈ batch.map (·.event.id), ∃ time,
    next.outbox.find id = (state.outbox.find id).map (publishedUpdate time)
  others : ∀ id, id ∉ batch.map (·.event.id) → next.outbox.find id = state.outbox.find id
  sent : Transition.observed (publisherStep config) sentIds state
    (timed clock (publishActions publisher batch.length)) = batch.map (·.event.id)

/-- One event is sent and marked. -/
theorem run_send (sendTime markTime : Int) {current : ClaimedEvent Instance Payload}
    {rest : List (ClaimedEvent Instance Payload)}
    (was : state.phase publisher = .publishing (current :: rest)) :
    ∃ middle next,
      publisherStep config state ⟨sendTime, .send publisher .acknowledged⟩ = some middle ∧
      publisherStep config middle ⟨markTime, .markPublished publisher⟩ = some next ∧
      next.phase publisher = .publishing rest ∧
      (∀ other, other ≠ publisher → next.phase other = state.phase other) ∧
      next.outbox = (state.outbox.updateOne current.event.id (lockOwnerFilter publisher)
        (publishedUpdate markTime)).2 := by
  let middle := (state.countSend current.event.id).setPhase publisher (.marking current rest)
  have sends : publisherStep config state ⟨sendTime, .send publisher .acknowledged⟩ =
      some middle := by
    simp only [publisherStep, was]
    rfl
  have wasMarking : middle.phase publisher = .marking current rest := if_pos rfl
  obtain ⟨written, wrote⟩ : ∃ written,
      middle.write config (.markPublished publisher current.event markTime) = some written := by
    rw [PublisherState.write, perform]
    exact ⟨_, rfl⟩
  obtain ⟨performed, phases, _⟩ := write_eq_some wrote
  refine ⟨middle, written.setPhase publisher (.publishing rest), sends, ?_, if_pos rfl,
    fun other different => ?_, ?_⟩
  · simp only [publisherStep, wasMarking]
    rw [wrote, Option.map_some]
  · refine (if_neg different).trans ?_
    rw [phases]
    exact if_neg different
  · rw [perform, Option.some_inj] at performed
    exact performed.symm

theorem run_sends {batch : List (ClaimedEvent Instance Payload)}
    (was : state.phase publisher = .publishing batch)
    (owned : ∀ id ∈ batch.map (·.event.id), ∃ row, state.outbox.find id = some row ∧
      lockOwnerFilter publisher row = true)
    (distinct : (batch.map (·.event.id)).Nodup) :
    ∃ next, SendsBatch config publisher clock state batch next := by
  induction batch generalizing state clock with
  | nil =>
    exact ⟨state, rfl, was, fun _ _ => rfl, fun _ member => absurd member List.not_mem_nil,
      fun _ _ => rfl, rfl⟩
  | cons current rest inductionHypothesis =>
    obtain ⟨middle, after, sends, marks, phase, phases, outbox⟩ :=
      run_send (clock 0) (clock 1) was
    rw [List.map_cons] at owned distinct
    obtain ⟨apart, distinctRest⟩ := List.nodup_cons.mp distinct
    have unchanged : ∀ id, id ≠ current.event.id →
        after.outbox.find id = state.outbox.find id := by
      intro id different
      rw [outbox, Collection.find_updateOne_of_ne _ _ _ different]
    have ownedRest : ∀ id ∈ rest.map (·.event.id), ∃ row, after.outbox.find id = some row ∧
        lockOwnerFilter publisher row = true := by
      intro id member
      rw [unchanged id fun same => apart (same ▸ member)]
      exact owned id (List.mem_cons_of_mem _ member)
    obtain ⟨next, reached, phaseNext, phasesNext, published, others, sent⟩ :=
      inductionHypothesis phase ownedRest distinctRest
    obtain ⟨row, stored, owns⟩ := owned current.event.id List.mem_cons_self
    refine ⟨next, ?_, phaseNext, fun other different => ?_, fun id member => ?_,
      fun id other => ?_, ?_⟩
    · rw [publishActions, List.length_cons, List.replicate_succ, List.flatten_cons,
        List.cons_append, List.cons_append, List.nil_append, timed_cons, timed_cons,
        Transition.run, sends, Option.bind_some, Transition.run,
        show readingsFrom clock 1 0 = clock 1 from rfl, marks]
      exact reached
    · rw [phasesNext other different, phases other different]
    · rcases List.mem_cons.mp member with rfl | member
      · refine ⟨clock 1, ?_⟩
        rw [others _ apart, outbox, Collection.find_updateOne_self, stored, Option.map_some,
          if_pos owns, Option.map_some]
      · rw [← unchanged id fun same => apart (same ▸ member)]
        exact published id member
    · rw [List.map_cons, List.mem_cons, not_or] at other
      rw [others id other.2, unchanged id other.1]
    · rw [publishActions, List.length_cons, List.replicate_succ, List.flatten_cons,
        List.cons_append, List.cons_append, List.nil_append, timed_cons, timed_cons,
        Transition.observed_cons sends, show readingsFrom clock 1 0 = clock 1 from rfl,
        Transition.observed_cons marks]
      rw [show Transition.observed (publisherStep config) sentIds after
        (timed _ (List.replicate rest.length _).flatten) = rest.map (·.event.id) from sent]
      simp only [sentIds, was]
      rfl

/-! ### The rows that wait -/

/-- The row waits to be published, or was claimed for that. -/
def OutboxEventEntity.isLive (row : OutboxEventEntity Instance Payload) : Bool :=
  row.status == .pending || row.status == .publishing

omit [DecidableEq Instance] in
theorem isLive_iff {row : OutboxEventEntity Instance Payload} :
    row.isLive = true ↔ row.status = .pending ∨ row.status = .publishing := by
  rw [OutboxEventEntity.isLive, Bool.or_eq_true, beq_iff_eq, beq_iff_eq]

omit [DecidableEq Instance] in
theorem isLive_of_claimFilter {input : ClaimPublishableOutboxEventsInput Instance}
    {row : OutboxEventEntity Instance Payload} (eligible : claimFilter input row = true) :
    row.isLive = true := by
  rw [isLive_iff]
  exact ((claimFilter_iff input row).mp eligible).imp And.left And.left

/-- The `_id`s of the live rows, in ascending order. -/
def liveIds (outbox : OutboxCollection Instance Payload) : List ObjectId :=
  Keyset.sorted id (outbox.select fun _ row => row.isLive)

omit [DecidableEq Instance] in
theorem distinct_live (outbox : OutboxCollection Instance Payload) :
    ((outbox.select fun _ row => row.isLive).map id).Nodup := by
  rw [List.map_id]
  exact Collection.nodup_select _ _

omit [DecidableEq Instance] in
theorem mem_liveIds {outbox : OutboxCollection Instance Payload} {id : ObjectId} :
    id ∈ liveIds outbox ↔ ∃ row, outbox.find id = some row ∧ row.isLive = true := by
  rw [liveIds, Keyset.mem_sorted, Collection.mem_select]

omit [DecidableEq Instance] in
theorem ascending_liveIds (outbox : OutboxCollection Instance Payload) :
    (liveIds outbox).Pairwise (· < ·) :=
  Keyset.increasing_sorted (distinct_live outbox)

/-- From this instant on, every live row is due. -/
def AllDue (config : PublisherConfig) (instant : Int)
    (outbox : OutboxCollection Instance Payload) : Prop :=
  ∀ (publisher : Instance) (now : Int), instant ≤ now → ∀ id row, outbox.find id = some row →
    row.isLive = true → claimFilter (config.claimInput publisher now) row = true

omit [DecidableEq Instance] in
/-- A claim of that instant or a later one may take every live row. -/
theorem AllDue.eligibleIds {instant : Int} {outbox : OutboxCollection Instance Payload}
    (allDue : AllDue config instant outbox) (late : instant ≤ now) :
    eligibleIds (config.claimInput publisher now) outbox = liveIds outbox := by
  refine Keyset.sorted_congr (distinct_due _ outbox) (distinct_live outbox) fun id => ?_
  rw [Collection.mem_select, Collection.mem_select]
  constructor
  · rintro ⟨row, stored, eligible⟩
    exact ⟨row, stored, isLive_of_claimFilter eligible⟩
  · rintro ⟨row, stored, live⟩
    exact ⟨row, stored, allDue publisher now late id row stored live⟩

omit [DecidableEq Instance] in
/-- Where every row is as the lifecycle has it, there is such an instant. -/
theorem exists_allDue {outbox : OutboxCollection Instance Payload}
    (rows : ∀ id row, outbox.find id = some row → RowInvariant config row) :
    ∃ instant, AllDue config instant outbox := by
  suffices listed : ∀ ids : List ObjectId, ∃ instant, ∀ (publisher : Instance) (now : Int),
      instant ≤ now → ∀ id ∈ ids, ∀ row, outbox.find id = some row → row.isLive = true →
        claimFilter (config.claimInput publisher now) row = true by
    obtain ⟨instant, due⟩ := listed outbox.keys
    exact ⟨instant, fun publisher now late id row stored =>
      due publisher now late id (Collection.mem_keys_of_find stored) row stored⟩
  intro ids
  induction ids with
  | nil => exact ⟨0, fun _ _ _ _ member => absurd member List.not_mem_nil⟩
  | cons first rest inductionHypothesis =>
    obtain ⟨instant, restDue⟩ := inductionHypothesis
    obtain ⟨other, firstDue⟩ : ∃ other, ∀ (publisher : Instance) (now : Int), other ≤ now →
        ∀ row, outbox.find first = some row → row.isLive = true →
          claimFilter (config.claimInput publisher now) row = true := by
      by_cases waits : ∃ row, outbox.find first = some row ∧ row.isLive = true
      · obtain ⟨row, stored, live⟩ := waits
        obtain ⟨other, due⟩ := eventually_claimFilter (rows first row stored) (isLive_iff.mp live)
        refine ⟨other, fun publisher now late after same _ => ?_⟩
        rw [← Option.some.inj (stored.symm.trans same)]
        exact due _ rfl late
      · exact ⟨0, fun _ _ _ row stored live => absurd ⟨row, stored, live⟩ waits⟩
    refine ⟨max instant other, fun publisher now late id member row stored live => ?_⟩
    rcases List.mem_cons.mp member with rfl | member
    · exact firstDue publisher now (le_trans (le_max_right _ _) late) row stored live
    · exact restDue publisher now (le_trans (le_max_left _ _) late) id member row stored live

/-! ### Runs -/

/-- What runs of an instance that is not disturbed do: they publish the first live rows, in order
and each with one send, and leave everything else as it was. -/
structure PublishesFirst (config : PublisherConfig) (publisher : Instance) (count : Nat)
    (state : PublisherState Instance Payload) (labels : List (PublisherLabel Instance Payload))
    (next : PublisherState Instance Payload) : Prop where
  reached : Transition.run (publisherStep config) state labels = some next
  idle : next.phase publisher = .idle
  rest : liveIds next.outbox = (liveIds state.outbox).drop count
  published : ∀ id ∈ (liveIds state.outbox).take count, ∃ row after,
    state.outbox.find id = some row ∧ next.outbox.find id = some after ∧
      after.status = .published ∧ after.announced = row.announced
  others : ∀ id, id ∉ (liveIds state.outbox).take count →
    next.outbox.find id = state.outbox.find id
  sent : Transition.observed (publisherStep config) sentIds state labels =
    (liveIds state.outbox).take count

omit [DecidableEq Instance] in
/-- Where some rows are published and the others as they were, the live ones are still due. -/
theorem AllDue.published {instant : Int} {outbox final : OutboxCollection Instance Payload}
    {ids : List ObjectId} (allDue : AllDue config instant outbox)
    (published : ∀ id ∈ ids, ∃ after, final.find id = some after ∧ after.status = .published)
    (others : ∀ id, id ∉ ids → final.find id = outbox.find id) : AllDue config instant final := by
  intro other now late id row stored live
  by_cases member : id ∈ ids
  · obtain ⟨after, isAfter, published⟩ := published id member
    obtain rfl : after = row := Option.some.inj (isAfter.symm.trans stored)
    rcases isLive_iff.mp live with pending | publishing
    · exact absurd (pending.symm.trans published) OutboxEventStatus.noConfusion
    · exact absurd (publishing.symm.trans published) OutboxEventStatus.noConfusion
  · rw [others id member] at stored
    exact allDue other now late id row stored live

theorem PublishesFirst.allDue {instant : Int} {count : Nat}
    {labels : List (PublisherLabel Instance Payload)}
    (first : PublishesFirst config publisher count state labels next)
    (allDue : AllDue config instant state.outbox) : AllDue config instant next.outbox := by
  refine allDue.published (fun id member => ?_) first.others
  obtain ⟨_, after, _, isAfter, published, _⟩ := first.published id member
  exact ⟨after, isAfter, published⟩

omit [DecidableEq Instance] in
/-- Publishing rows that were claimed leaves the due rows as they are. -/
theorem eligibleIds_published {input : ClaimPublishableOutboxEventsInput Instance}
    (timeout : 0 < input.lockTimeoutMs) {claimed final : OutboxCollection Instance Payload}
    {ids : List ObjectId}
    (leased : ∀ id ∈ ids, ∃ row, claimed.find id = some (claimUpdate input row))
    (published : ∀ id ∈ ids, ∃ time,
      final.find id = (claimed.find id).map (publishedUpdate time))
    (others : ∀ id, id ∉ ids → final.find id = claimed.find id) :
    eligibleIds input final = eligibleIds input claimed := by
  refine Keyset.sorted_congr (distinct_due input final) (distinct_due input claimed) fun id => ?_
  rw [Collection.mem_select, Collection.mem_select]
  by_cases member : id ∈ ids
  · obtain ⟨row, stored⟩ := leased id member
    obtain ⟨time, marked⟩ := published id member
    have refused : claimFilter input (claimUpdate input row) = false := by
      refine not_claimFilter_of_leased rfl (show _ = some input.now from rfl) ?_
      rw [sub_self]
      exact timeout
    rw [marked, stored, Option.map_some]
    constructor
    · rintro ⟨after, same, eligible⟩
      rw [← Option.some.inj same] at eligible
      rcases (claimFilter_iff input _).mp eligible with ⟨isPending, _⟩ | ⟨isPublishing, _⟩
      · cases isPending
      · cases isPublishing
    · rintro ⟨after, same, eligible⟩
      rw [← Option.some.inj same, refused] at eligible
      cases eligible
  · rw [others id member]

/-- What the claims of a run leave: the first due rows, leased. -/
structure LeasesFirst (config : PublisherConfig) (publisher : Instance) (now : Int)
    (outbox : OutboxCollection Instance Payload) (batch : List (ClaimedEvent Instance Payload))
    (next : OutboxCollection Instance Payload) : Prop where
  ids : batch.map (·.event.id) =
    (eligibleIds (config.claimInput publisher now) outbox).take config.batchSize
  leased : ∀ id ∈ batch.map (·.event.id), ∃ row, outbox.find id = some row ∧
    next.find id = some (claimUpdate (config.claimInput publisher now) row)
  rest : eligibleIds (config.claimInput publisher now) next =
    (eligibleIds (config.claimInput publisher now) outbox).drop config.batchSize
  others : ∀ id, id ∉ batch.map (·.event.id) → next.find id = outbox.find id

theorem ClaimsBatch.leasesFirst {batch : List (ClaimedEvent Instance Payload)}
    (claims : ClaimsBatch config publisher now clock state config.batchSize [] batch next) :
    LeasesFirst config publisher now state.outbox batch next.outbox := by
  let input := config.claimInput publisher now
  have first := claimLoop_claimsFirst (show 0 < input.lockTimeoutMs from config.lockTimeoutMs_pos)
    config.batchSize state.outbox
  have events : batch.map (·.event) = (claimLoop input config.batchSize state.outbox).1 :=
    claims.events
  have ids : batch.map (·.event.id) =
      (claimLoop input config.batchSize state.outbox).1.map (·.id) := by
    rw [← events, List.map_map]
    rfl
  refine ⟨ids.trans first.ids, fun id member => ?_, ?_, fun id other => ?_⟩
  · obtain ⟨snapshot, isSnapshot, rfl⟩ := List.mem_map.mp member
    obtain ⟨row, stored, _, left⟩ := first.events snapshot.event
      (events ▸ List.mem_map_of_mem isSnapshot)
    rw [claims.outbox]
    exact ⟨row, stored, left⟩
  · rw [claims.outbox]
    exact first.rest
  · rw [claims.outbox]
    exact first.others id (ids ▸ other)

section Leased

variable {outbox claimed : OutboxCollection Instance Payload}
  {batch : List (ClaimedEvent Instance Payload)}

theorem LeasesFirst.owned (leases : LeasesFirst config publisher now outbox batch claimed) :
    ∀ id ∈ batch.map (·.event.id), ∃ row, claimed.find id = some row ∧
      lockOwnerFilter publisher row = true := by
  intro id member
  obtain ⟨row, _, left⟩ := leases.leased id member
  exact ⟨_, left, (lockOwnerFilter_iff _ _).mpr ⟨rfl, rfl⟩⟩

omit [DecidableEq Instance] in
theorem LeasesFirst.distinct (leases : LeasesFirst config publisher now outbox batch claimed) :
    (batch.map (·.event.id)).Nodup := by
  rw [leases.ids]
  exact ((ascending_eligibleIds _ outbox).imp ne_of_lt).sublist (List.take_sublist _ _)

end Leased

/-- The claims of a run send nothing. -/
theorem observed_claims (start : PublisherState Instance Payload) (count : Nat) :
    Transition.observed (publisherStep config) sentIds start
      (timed clock (claimActions publisher count)) = [] := by
  refine Transition.observed_eq_nil start fun label member other => ?_
  rw [sentIds, List.eq_of_mem_replicate (action_mem_of_mem_timed member)]

/-- A run of an idle instance leases the first due rows and sends them. -/
theorem run_runOnce (clock : Nat → Int) (idle : state.phase publisher = .idle) :
    ∃ (batch : List (ClaimedEvent Instance Payload)) (claimed sent : PublisherState Instance Payload)
      (sendClock : Nat → Int),
      LeasesFirst config publisher (clock 0) state.outbox batch claimed.outbox ∧
      SendsBatch config publisher sendClock claimed batch sent ∧
      Transition.run (publisherStep config) state
        (timed clock (runOnceActions publisher batch.length)) =
          some (sent.setPhase publisher .idle) ∧
      Transition.observed (publisherStep config) sentIds state
        (timed clock (runOnceActions publisher batch.length)) = batch.map (·.event.id) := by
  let now := clock 0
  let started := state.setPhase publisher (.claiming now [])
  have starts : publisherStep config state ⟨now, .startRun publisher⟩ = some started := by
    simp only [publisherStep, idle]
    rfl
  have wasClaiming : started.phase publisher = .claiming now [] := if_pos rfl
  have whole : ([] : List (ClaimedEvent Instance Payload)).length + config.batchSize =
      config.batchSize := Nat.zero_add _
  obtain ⟨batch, claimed, claims⟩ : ∃ batch claimed, ClaimsBatch config publisher now
      (readingsFrom clock 1) started config.batchSize [] batch claimed :=
    run_claims wasClaiming whole
  have leases : LeasesFirst config publisher now state.outbox batch claimed.outbox :=
    claims.leasesFirst
  let claiming : List (PublisherAction Instance Payload) := claimActions publisher batch.length
  let sending : List (PublisherAction Instance Payload) := publishActions publisher batch.length
  let sendClock := readingsFrom (readingsFrom clock 1) claiming.length
  let finish := readingsFrom sendClock sending.length 0
  have claimsReached : Transition.run (publisherStep config) started
      (timed (readingsFrom clock 1) claiming) = some claimed := by
    have reached := claims.reached
    rw [← claims.length_batch] at reached
    exact reached
  obtain ⟨sent, sends⟩ : ∃ sent, SendsBatch config publisher sendClock claimed batch sent :=
    run_sends claims.phase leases.owned leases.distinct
  have finishes : publisherStep config sent ⟨finish, .finishRun publisher⟩ =
      some (sent.setPhase publisher .idle) := by
    simp only [publisherStep, sends.phase]
  have labels : timed clock (runOnceActions publisher batch.length) =
      ⟨now, .startRun publisher⟩ :: (timed (readingsFrom clock 1) claiming ++
        (timed sendClock sending ++ [⟨finish, .finishRun publisher⟩])) := by
    rw [runOnceActions, timed_cons, List.append_assoc, timed_append, timed_append]
    rfl
  refine ⟨batch, claimed, sent, sendClock, leases, sends, ?_, ?_⟩
  · rw [labels, Transition.run, starts, Option.bind_some, Transition.run_append, claimsReached,
      Option.bind_some, Transition.run_append, sends.reached, Option.bind_some, Transition.run,
      finishes]
    rfl
  · rw [labels, Transition.observed_cons starts, Transition.observed_append claimsReached,
      observed_claims, List.nil_append, Transition.observed_append sends.reached, sends.sent,
      Transition.observed_cons finishes]
    exact List.append_nil _

/-- A run that starts when all live rows are due publishes a batch of them. -/
theorem runOnce_publishes {instant : Int} (allDue : AllDue config instant state.outbox)
    (late : ∀ step, instant ≤ clock step) (idle : state.phase publisher = .idle) :
    ∃ count next, PublishesFirst config publisher config.batchSize state
      (timed clock (runOnceActions publisher count)) next := by
  obtain ⟨batch, claimed, sent, sendClock, leases, sends, reached, observed⟩ :
      ∃ batch claimed sent sendClock,
        LeasesFirst config publisher (clock 0) state.outbox batch claimed.outbox ∧
        SendsBatch config publisher sendClock claimed batch sent ∧ _ ∧ _ := run_runOnce clock idle
  have live : eligibleIds (config.claimInput publisher (clock 0)) state.outbox =
    liveIds state.outbox := allDue.eligibleIds (late 0)
  have ids : batch.map (·.event.id) = (liveIds state.outbox).take config.batchSize := by
    rw [leases.ids, live]
  have published : ∀ id ∈ batch.map (·.event.id), ∃ row after,
      state.outbox.find id = some row ∧ sent.outbox.find id = some after ∧
        after.status = .published ∧ after.announced = row.announced := by
    intro id member
    obtain ⟨row, stored, left⟩ := leases.leased id member
    obtain ⟨time, marked⟩ := sends.published id member
    rw [left, Option.map_some] at marked
    exact ⟨row, _, stored, marked, rfl, rfl⟩
  have others : ∀ id, id ∉ batch.map (·.event.id) →
      sent.outbox.find id = state.outbox.find id := by
    intro id other
    rw [sends.others id other, leases.others id other]
  have rest : liveIds sent.outbox = (liveIds state.outbox).drop config.batchSize := by
    have stillDue : AllDue config instant sent.outbox := by
      refine allDue.published (fun id member => ?_) others
      obtain ⟨_, after, _, isAfter, isPublished, _⟩ := published id member
      exact ⟨after, isAfter, isPublished⟩
    calc liveIds sent.outbox
        = eligibleIds (config.claimInput publisher (clock 0)) sent.outbox :=
          (stillDue.eligibleIds (late 0)).symm
      _ = eligibleIds (config.claimInput publisher (clock 0)) claimed.outbox :=
          eligibleIds_published config.lockTimeoutMs_pos
            (fun id member => (leases.leased id member).imp fun _ row => row.2)
            sends.published sends.others
      _ = (liveIds state.outbox).drop config.batchSize := by rw [leases.rest, live]
  rw [ids] at published others observed
  exact ⟨batch.length, sent.setPhase publisher .idle, reached, if_pos rfl, rest, published, others,
    observed⟩

/-- Runs one after another publish as many batches. -/
theorem PublishesFirst.append {count more : Nat} {middle : PublisherState Instance Payload}
    {labels later : List (PublisherLabel Instance Payload)}
    (first : PublishesFirst config publisher count state labels middle)
    (second : PublishesFirst config publisher more middle later next) :
    PublishesFirst config publisher (count + more) state (labels ++ later) next := by
  have apart : List.Disjoint ((liveIds state.outbox).take count)
      ((liveIds middle.outbox).take more) := by
    rw [first.rest]
    refine List.disjoint_of_subset_right (List.take_subset _ _)
      (List.disjoint_take_drop ?_ (le_refl count))
    exact (ascending_liveIds state.outbox).imp ne_of_lt
  have taken : (liveIds state.outbox).take (count + more) =
      (liveIds state.outbox).take count ++ (liveIds middle.outbox).take more := by
    rw [List.take_add, first.rest]
  refine ⟨?_, second.idle, ?_, fun id member => ?_, fun id other => ?_, ?_⟩
  · rw [Transition.run_append, first.reached]
    exact second.reached
  · rw [second.rest, first.rest, List.drop_drop]
  · rw [taken] at member
    rcases List.mem_append.mp member with early | late
    · obtain ⟨row, after, stored, left, published⟩ := first.published id early
      exact ⟨row, after, stored, (second.others id (apart early)).trans left, published⟩
    · obtain ⟨row, after, stored, left, published⟩ := second.published id late
      exact ⟨row, after, (first.others id fun early => apart early late).symm.trans stored, left,
        published⟩
  · rw [taken, List.mem_append, not_or] at other
    rw [second.others id other.2, first.others id other.1]
  · rw [taken, Transition.observed_append first.reached, first.sent, second.sent]

theorem runs_publish {instant : Int} (runs : Nat) (allDue : AllDue config instant state.outbox)
    (late : ∀ step, instant ≤ clock step) (idle : state.phase publisher = .idle) :
    ∃ (counts : List Nat) (next : PublisherState Instance Payload),
      PublishesFirst config publisher (runs * config.batchSize) state
        (timed clock (counts.flatMap (runOnceActions publisher))) next := by
  induction runs generalizing state clock with
  | zero =>
    refine ⟨[], state, rfl, idle, ?_, ?_, fun _ _ => rfl, ?_⟩
    · rw [Nat.zero_mul, List.drop_zero]
    · rw [Nat.zero_mul, List.take_zero]
      exact fun id member => absurd member List.not_mem_nil
    · rw [Nat.zero_mul, List.take_zero]
      rfl
  | succ runs inductionHypothesis =>
    obtain ⟨count, middle, first⟩ : ∃ count middle, PublishesFirst config publisher
        config.batchSize state (timed clock (runOnceActions publisher count)) middle :=
      runOnce_publishes allDue late idle
    let whole : List (PublisherAction Instance Payload) := runOnceActions publisher count
    have lateAfter : ∀ step, instant ≤ readingsFrom clock whole.length step :=
      fun step => late (step + whole.length)
    obtain ⟨counts, final, later⟩ :=
      inductionHypothesis (first.allDue allDue) lateAfter first.idle
    refine ⟨count :: counts, final, ?_⟩
    rw [Nat.succ_mul, Nat.add_comm, List.flatMap_cons, timed_append]
    exact first.append later

/-! ### No row gets stuck -/

/-- Some runs of one instance publish every live row, in the order of the `_id`s and with one send
each, and leave the other rows as they are; the clock shows these readings at their steps. -/
structure Drains (config : PublisherConfig) (publisher : Instance) (clock : Nat → Int)
    (state : PublisherState Instance Payload) (counts : List Nat)
    (final : PublisherState Instance Payload) : Prop where
  reached : Transition.run (publisherStep config) state
    (timed clock (counts.flatMap (runOnceActions publisher))) = some final
  ordered : (Transition.observed (publisherStep config) sentIds state
    (timed clock (counts.flatMap (runOnceActions publisher)))).Pairwise (· < ·)
  sent : ∀ id, id ∈ Transition.observed (publisherStep config) sentIds state
      (timed clock (counts.flatMap (runOnceActions publisher))) ↔
    ∃ row, state.outbox.find id = some row ∧ row.isLive = true
  published : ∀ id row, state.outbox.find id = some row → row.isLive = true →
    ∃ after, final.outbox.find id = some after ∧ after.status = .published ∧
      after.announced = row.announced
  others : ∀ id, (state.outbox.find id).any (·.isLive) = false →
    final.outbox.find id = state.outbox.find id

/-- Where every row is as the lifecycle has it, an idle instance that is not disturbed drains the
outbox from some instant on. -/
theorem exists_drains (batch : 0 < config.batchSize)
    (rows : ∀ id row, state.outbox.find id = some row → RowInvariant config row)
    (idle : state.phase publisher = .idle) :
    ∃ instant, ∀ clock : Nat → Int, (∀ step, instant ≤ clock step) →
      ∃ counts final, Drains config publisher clock state counts final := by
  obtain ⟨instant, allDue⟩ := exists_allDue rows
  refine ⟨instant, fun clock late => ?_⟩
  let live := liveIds state.outbox
  obtain ⟨counts, final, publishes⟩ : ∃ (counts : List Nat) (final : PublisherState Instance
      Payload), PublishesFirst config publisher (live.length * config.batchSize) state
        (timed clock (counts.flatMap (runOnceActions publisher))) final :=
    runs_publish live.length allDue late idle
  have all : live.take (live.length * config.batchSize) = live :=
    List.take_of_length_le (Nat.le_mul_of_pos_right _ batch)
  have sent : Transition.observed (publisherStep config) sentIds state
      (timed clock (counts.flatMap (runOnceActions publisher))) = live :=
    publishes.sent.trans all
  refine ⟨counts, final, publishes.reached, ?_, fun id => ?_, fun id row stored isLive => ?_,
    fun id idleRow => ?_⟩
  · rw [sent]
    exact ascending_liveIds state.outbox
  · rw [sent]
    exact mem_liveIds
  · have member : id ∈ live.take (live.length * config.batchSize) := by
      rw [all]
      exact mem_liveIds.mpr ⟨row, stored, isLive⟩
    obtain ⟨before, after, isBefore, isAfter, published, announced⟩ :=
      publishes.published id member
    obtain rfl : before = row := Option.some.inj (isBefore.symm.trans stored)
    exact ⟨after, isAfter, published, announced⟩
  · refine publishes.others id fun member => ?_
    rw [show (liveIds state.outbox).take _ = live from all] at member
    obtain ⟨row, stored, isLive⟩ := mem_liveIds.mp member
    rw [stored, Option.any_some, isLive] at idleRow
    cases idleRow

/-- In every state that any number of publishers reach, with crashes, failures and lost leases
behind it: from some instant on, whatever the clock shows at each step, an idle instance that is
not disturbed drains the outbox. -/
theorem publisher_drains_outbox {labels : List (PublisherLabel Instance Payload)}
    (batch : 0 < config.batchSize)
    (reached : Transition.run (publisherStep config) .initial labels = some state)
    (idle : state.phase publisher = .idle) :
    ∃ instant, ∀ clock : Nat → Int, (∀ step, instant ≤ clock step) →
      ∃ counts final, Drains config publisher clock state counts final :=
  exists_drains batch (fun id row stored => (publisher_invariant reached).rows id row stored) idle

/-- An instance crashes after a send, another row is not due for a while. -/
def crashedBatch : List (PublisherLabel Bool Unit) :=
  let input : CreateOutboxEventInput Unit :=
    { eventId := [], eventType := [], eventVersion := 1, topic := [], key := [], payload := (),
      nextAttemptAt := 5, createdAt := 5 }
  [⟨5, .create 7 input⟩, ⟨5, .create 9 { input with nextAttemptAt := 90000 }⟩,
    ⟨6, .startRun true⟩, ⟨6, .claim true⟩, ⟨6, .claim true⟩, ⟨7, .send true .acknowledged⟩,
    ⟨8, .crash true⟩]

theorem publisher_drains_outbox_crashed :
    ∃ state, Transition.run (publisherStep .default) .initial crashedBatch = some state ∧
      (state.outbox.find 7).any (fun row => decide (row.status = .publishing)) = true ∧
      ∃ instant, ∀ clock : Nat → Int, (∀ step, instant ≤ clock step) →
        ∃ counts final, Drains .default false clock state counts final := by
  have runs : (Transition.run (publisherStep .default) .initial crashedBatch).any (fun state =>
      (state.outbox.find 7).any (fun row => decide (row.status = .publishing)) &&
        (state.phase false).isIdle) = true := by
    decide +kernel
  obtain ⟨state, reached, holds⟩ := (Option.any_eq_true _ _).mp runs
  rw [Bool.and_eq_true] at holds
  exact ⟨state, reached, holds.1,
    publisher_drains_outbox (by decide) reached (phase_of_isIdle holds.2)⟩

end MessageManagement
