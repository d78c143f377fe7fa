/-
This file proves the lifecycle of an outbox row over every interleaving of the
operations that write `outbox_events`.

The system is deliberately loose: any instance may, at any time, issue a
transition for any snapshot it was ever handed, however long ago, so that what
holds here holds for every publisher, whatever order it works in and whoever
took its lease meanwhile. What one operation does to one row is said once, by
`RowStep`; the lifecycle is read off it.
-/

import MessageManagement.Library.Transition
import MessageManagement.PublisherService

namespace MessageManagement

variable {Instance Payload : Type} [DecidableEq Instance]

/-! ### The operations on the collection -/

/-- One atomic operation on `outbox_events`, with everything its issuer chose or read. -/
inductive OutboxAction (Instance Payload : Type)
  | create (id : ObjectId) (input : CreateOutboxEventInput Payload)
  | claim (lockedBy : Instance) (now : Int)
  | markPublished (lockedBy : Instance) (event : OutboxEvent Instance Payload) (publishedAt : Int)
  | handlePublishFailure (lockedBy : Instance) (event : OutboxEvent Instance Payload)
      (error : ThrownValue) (now : Int) (random : ℚ)
  | redriveFailed (selected : List ObjectId) (now : Int)
  | expire (id : ObjectId) (now : Int)

/-- The collection after an operation. An insert needs a fresh `_id`, and only what the TTL
index selects expires. -/
def perform (config : PublisherConfig) :
    OutboxAction Instance Payload → OutboxCollection Instance Payload →
      Option (OutboxCollection Instance Payload)
  | .create id input, outbox =>
    if fresh : id ∉ outbox.keys then some (outbox.insert id input.entity fresh) else none
  | .claim lockedBy now, outbox =>
    match claimOne (config.claimInput lockedBy now) outbox with
    | none => some outbox
    | some (_, next) => some next
  | .markPublished lockedBy event publishedAt, outbox =>
    some (markPublished { id := event.id, lockedBy, publishedAt } outbox).2
  | .handlePublishFailure lockedBy event error now random, outbox =>
    some (handlePublishFailure config lockedBy event error now random outbox).2
  | .redriveFailed selected now, outbox => some (redriveSelected selected now outbox)
  | .expire id now, outbox =>
    if (outbox.find id).any (expiryFilter now) then some (outbox.delete id) else none

/-- What an operation does to the row under one `_id`. -/
inductive RowStep (config : PublisherConfig) :
    OutboxAction Instance Payload → ObjectId → Option (OutboxEventEntity Instance Payload) →
      Option (OutboxEventEntity Instance Payload) → Prop
  | unchanged {action id} (row) : RowStep config action id row row
  | created (id input) : RowStep config (.create id input) id none (some input.entity)
  | claimed (lockedBy now id row)
      (eligible : claimFilter (config.claimInput lockedBy now) row = true) :
      RowStep config (.claim lockedBy now) id (some row)
        (some (claimUpdate (config.claimInput lockedBy now) row))
  | published (lockedBy event publishedAt row)
      (owned : lockOwnerFilter lockedBy row = true) :
      RowStep config (.markPublished lockedBy event publishedAt) event.id (some row)
        (some (publishedUpdate publishedAt row))
  | failure (lockedBy event error now random row)
      (owned : lockOwnerFilter lockedBy row = true) :
      RowStep config (.handlePublishFailure lockedBy event error now random) event.id (some row)
        (some (failureUpdate config lockedBy event error now random row))
  | redriven (selected now id row) (failed : row.status = .failed) :
      RowStep config (.redriveFailed selected now) id (some row) (some (redriveUpdate now row))
  | expired (id now row) (published : row.status = .published) :
      RowStep config (.expire id now) id (some row) none

/-- A lock-owner-safe update leaves a row as it was or updates a row its issuer owns. -/
theorem find_updateOne_lockOwner (outbox : OutboxCollection Instance Payload) (key id : ObjectId)
    (lockedBy : Instance)
    (update : OutboxEventEntity Instance Payload → OutboxEventEntity Instance Payload) :
    (outbox.updateOne key (lockOwnerFilter lockedBy) update).2.find id = outbox.find id ∨
      ∃ row, id = key ∧ outbox.find id = some row ∧ lockOwnerFilter lockedBy row = true ∧
        (outbox.updateOne key (lockOwnerFilter lockedBy) update).2.find id =
          some (update row) := by
  by_cases same : id = key
  · subst same
    rw [Collection.find_updateOne_self]
    cases stored : outbox.find id with
    | none => exact Or.inl rfl
    | some row =>
      by_cases owned : lockOwnerFilter lockedBy row = true
      · refine Or.inr ⟨row, rfl, rfl, owned, ?_⟩
        rw [Option.map_some, if_pos owned]
      · refine Or.inl ?_
        rw [Option.map_some, if_neg owned]
  · exact Or.inl (Collection.find_updateOne_of_ne outbox _ _ same)

omit [DecidableEq Instance] in
/-- The row after a claim is the row before it, or the claimable row the claim took. -/
theorem claimOne_find {input : ClaimPublishableOutboxEventsInput Instance}
    {outbox next : OutboxCollection Instance Payload} {event : OutboxEvent Instance Payload}
    (claimed : claimOne input outbox = some (event, next)) (id : ObjectId) :
    (id ≠ event.id ∧ next.find id = outbox.find id) ∨
      ∃ row, id = event.id ∧ outbox.find id = some row ∧ claimFilter input row = true ∧
        next.find id = some (claimUpdate input row) := by
  obtain ⟨before, stored, eligible, _, _, rfl⟩ := claimOne_eq_some claimed
  by_cases same : id = event.id
  · subst same
    refine Or.inr ⟨before, rfl, stored, eligible, ?_⟩
    rw [Collection.find_updateOne_self, stored, Option.map_some, if_pos eligible]
  · exact Or.inl ⟨same, Collection.find_updateOne_of_ne outbox _ _ same⟩

/-- Every operation does to every row what `RowStep` says. -/
theorem perform_row {config : PublisherConfig} {action : OutboxAction Instance Payload}
    {outbox next : OutboxCollection Instance Payload}
    (performed : perform config action outbox = some next) (id : ObjectId) :
    RowStep config action id (outbox.find id) (next.find id) := by
  cases action with
  | create fresh input =>
    simp only [perform] at performed
    split at performed
    · rename_i isFresh
      rw [Option.some_inj] at performed
      subst performed
      rw [Collection.find_insert]
      by_cases same : id = fresh
      · subst same
        rw [if_pos rfl, Collection.find_eq_none isFresh]
        exact .created id input
      · rw [if_neg same]
        exact .unchanged _
    · exact absurd performed (Option.some_ne_none next).symm
  | claim lockedBy now =>
    simp only [perform] at performed
    split at performed
    · rw [Option.some_inj] at performed
      exact performed ▸ .unchanged _
    · rename_i event collection claimed
      rw [Option.some_inj] at performed
      subst performed
      rcases claimOne_find claimed id with ⟨_, same⟩ | ⟨row, _, stored, eligible, after⟩
      · rw [same]
        exact .unchanged _
      · rw [stored, after]
        exact .claimed lockedBy now id row eligible
  | markPublished lockedBy event publishedAt =>
    rw [perform, Option.some_inj] at performed
    subst performed
    rcases find_updateOne_lockOwner outbox event.id id lockedBy (publishedUpdate publishedAt) with
      same | ⟨row, rfl, stored, owned, after⟩
    · rw [show (markPublished { id := event.id, lockedBy, publishedAt } outbox).2.find id =
        outbox.find id from same]
      exact .unchanged _
    · rw [show (markPublished { id := event.id, lockedBy, publishedAt } outbox).2.find event.id =
        some (publishedUpdate publishedAt row) from after, stored]
      exact .published lockedBy event publishedAt row owned
  | handlePublishFailure lockedBy event error now random =>
    rw [perform, Option.some_inj, handlePublishFailure_eq] at performed
    subst performed
    rcases find_updateOne_lockOwner outbox event.id id lockedBy
      (failureUpdate config lockedBy event error now random) with
      same | ⟨row, rfl, stored, owned, after⟩
    · rw [same]
      exact .unchanged _
    · rw [after, stored]
      exact .failure lockedBy event error now random row owned
  | redriveFailed selected now =>
    rw [perform, Option.some_inj] at performed
    subst performed
    rw [redriveSelected, Collection.find_updateMany]
    cases stored : outbox.find id with
    | none => exact .unchanged _
    | some row =>
      rw [Option.map_some]
      split
      · rename_i accepted
        rw [Bool.and_eq_true, beq_iff_eq] at accepted
        exact .redriven selected now id row accepted.2
      · exact .unchanged _
  | expire expired now =>
    simp only [perform] at performed
    split at performed
    · rename_i accepted
      rw [Option.some_inj] at performed
      subst performed
      obtain ⟨row, stored, due⟩ := (Option.any_eq_true _ _).mp accepted
      rw [Collection.find_delete]
      by_cases same : id = expired
      · subst same
        rw [if_pos rfl, stored]
        exact .expired id now row (expiryFilter_published due)
      · rw [if_neg same]
        exact .unchanged _
    · exact absurd performed (Option.some_ne_none next).symm

/-- The `_id` an operation inserts. -/
def OutboxAction.inserted : OutboxAction Instance Payload → List ObjectId
  | .create id _ => [id]
  | _ => []

/-- No operation makes an `_id` unknown, and only an insert makes one known. -/
theorem keys_perform {config : PublisherConfig} {action : OutboxAction Instance Payload}
    {outbox next : OutboxCollection Instance Payload}
    (performed : perform config action outbox = some next) :
    next.keys = outbox.keys ++ action.inserted := by
  have nothing : outbox.keys ++ [] = outbox.keys := List.append_nil outbox.keys
  cases action with
  | create id input =>
    simp only [perform] at performed
    split at performed
    · rw [← Option.some.inj performed]
      rfl
    · exact absurd performed (Option.some_ne_none next).symm
  | claim lockedBy now =>
    simp only [perform] at performed
    refine Eq.trans ?_ nothing.symm
    split at performed
    · rw [Option.some.inj performed]
    · rename_i event collection found
      obtain ⟨_, _, _, _, _, left⟩ := claimOne_eq_some found
      rw [← Option.some.inj performed, left, Collection.keys_updateOne]
  | markPublished lockedBy event publishedAt =>
    rw [← Option.some.inj performed]
    exact nothing.symm
  | handlePublishFailure lockedBy event error now random =>
    rw [perform, Option.some_inj, handlePublishFailure_eq] at performed
    rw [← performed]
    exact nothing.symm
  | redriveFailed selected now =>
    rw [← Option.some.inj performed]
    exact nothing.symm
  | expire id now =>
    simp only [perform] at performed
    split at performed
    · rw [← Option.some.inj performed]
      exact nothing.symm
    · exact absurd performed (Option.some_ne_none next).symm

/-! ### The lifecycle system -/

/-- The collection, and every snapshot each instance was ever handed by a claim. -/
structure LifecycleState (Instance Payload : Type) where
  outbox : OutboxCollection Instance Payload
  snapshots : Instance → List (OutboxEvent Instance Payload)

def LifecycleState.initial : LifecycleState Instance Payload where
  outbox := .empty
  snapshots _ := []

/-- The snapshot an operation hands to an instance. -/
def handedOut (config : PublisherConfig) (action : OutboxAction Instance Payload)
    (outbox : OutboxCollection Instance Payload) (receiver : Instance) :
    List (OutboxEvent Instance Payload) :=
  match action with
  | .claim lockedBy now =>
    if receiver = lockedBy then
      ((claimOne (config.claimInput lockedBy now) outbox).map Prod.fst).toList
    else []
  | _ => []

/-- A transition out of a claim is issued for a snapshot its issuer was handed, current or
not. -/
def permitted [DecidableEq Payload] (snapshots : Instance → List (OutboxEvent Instance Payload)) :
    OutboxAction Instance Payload → Bool
  | .markPublished lockedBy event _ => event ∈ snapshots lockedBy
  | .handlePublishFailure lockedBy event _ _ _ => event ∈ snapshots lockedBy
  | _ => true

/-- One step of the lifecycle system: any operation, by any issuer. -/
def lifecycleStep [DecidableEq Payload] (config : PublisherConfig)
    (state : LifecycleState Instance Payload) (action : OutboxAction Instance Payload) :
    Option (LifecycleState Instance Payload) :=
  if permitted state.snapshots action then
    (perform config action state.outbox).map fun outbox =>
      { outbox
        snapshots := fun receiver =>
          state.snapshots receiver ++ handedOut config action state.outbox receiver }
  else none

/-! ### What a row and a snapshot look like -/

/-- What the correlated fields of a row say about each other. -/
structure RowInvariant (config : PublisherConfig) (row : OutboxEventEntity Instance Payload) :
    Prop where
  lockedBy_iff : row.lockedBy.isSome ↔ row.status = .publishing
  lockedAt_iff : row.lockedAt.isSome ↔ row.status = .publishing
  publishedAt_iff : row.publishedAt.isSome ↔ row.status = .published
  attempts_live : row.status = .pending ∨ row.status = .publishing →
    0 ≤ row.attempts ∧ row.attempts < config.maxAttempts
  attempts_failed : row.status = .failed → row.attempts = config.maxAttempts
  lastError_iff : row.status ≠ .published → (row.lastError.isSome ↔ 0 < row.attempts)
  lastError_published : row.status = .published → row.lastError = none

/-- A snapshot was taken of a row that had attempts left, and keeps saying so. -/
def SnapshotInvariant (config : PublisherConfig) (event : OutboxEvent Instance Payload) : Prop :=
  0 ≤ event.attempts ∧ event.attempts < config.maxAttempts

omit [DecidableEq Instance] in
theorem rowInvariant_entity (config : PublisherConfig) (input : CreateOutboxEventInput Payload) :
    RowInvariant config (input.entity : OutboxEventEntity Instance Payload) where
  lockedBy_iff := by simp [CreateOutboxEventInput.entity]
  lockedAt_iff := by simp [CreateOutboxEventInput.entity]
  publishedAt_iff := by simp [CreateOutboxEventInput.entity]
  attempts_live _ := ⟨le_refl 0, Int.lt_of_lt_of_le Int.zero_lt_one config.maxAttempts_pos⟩
  attempts_failed failed := by simp [CreateOutboxEventInput.entity] at failed
  lastError_iff _ := by simp [CreateOutboxEventInput.entity]
  lastError_published published := by simp [CreateOutboxEventInput.entity] at published

omit [DecidableEq Instance] in
/-- Whatever is claimable has attempts left. -/
theorem attempts_of_claimFilter {config : PublisherConfig}
    {input : ClaimPublishableOutboxEventsInput Instance}
    {row : OutboxEventEntity Instance Payload} (invariant : RowInvariant config row)
    (eligible : claimFilter input row = true) :
    0 ≤ row.attempts ∧ row.attempts < config.maxAttempts := by
  refine invariant.attempts_live ?_
  rcases (claimFilter_iff input row).mp eligible with ⟨pending, _⟩ | ⟨publishing, _⟩
  · exact Or.inl pending
  · exact Or.inr publishing

omit [DecidableEq Instance] in
theorem rowInvariant_claimUpdate {config : PublisherConfig}
    {input : ClaimPublishableOutboxEventsInput Instance}
    {row : OutboxEventEntity Instance Payload} (invariant : RowInvariant config row)
    (eligible : claimFilter input row = true) :
    RowInvariant config (claimUpdate input row) := by
  have attempts := attempts_of_claimFilter invariant eligible
  have unpublished : row.status ≠ .published := by
    intro published
    rcases (claimFilter_iff input row).mp eligible with ⟨pending, _⟩ | ⟨publishing, _⟩
    · rw [published] at pending
      exact OutboxEventStatus.noConfusion pending
    · rw [published] at publishing
      exact OutboxEventStatus.noConfusion publishing
  have publishedAt : ¬ row.publishedAt.isSome := fun set =>
    unpublished (invariant.publishedAt_iff.mp set)
  exact {
    lockedBy_iff := by simp [claimUpdate]
    lockedAt_iff := by simp [claimUpdate]
    publishedAt_iff := by simpa [claimUpdate] using publishedAt
    attempts_live := fun _ => attempts
    attempts_failed := fun failed => by simp [claimUpdate] at failed
    lastError_iff := fun _ => invariant.lastError_iff unpublished
    lastError_published := fun published => by simp [claimUpdate] at published }

omit [DecidableEq Instance] in
theorem rowInvariant_publishedUpdate (config : PublisherConfig) (publishedAt : Int)
    (row : OutboxEventEntity Instance Payload) :
    RowInvariant config (publishedUpdate publishedAt row) where
  lockedBy_iff := by simp [publishedUpdate]
  lockedAt_iff := by simp [publishedUpdate]
  publishedAt_iff := by simp [publishedUpdate]
  attempts_live live := by simp [publishedUpdate] at live
  attempts_failed failed := by simp [publishedUpdate] at failed
  lastError_iff unpublished := absurd rfl unpublished
  lastError_published _ := rfl

theorem rowInvariant_failureUpdate {config : PublisherConfig} {lockedBy : Instance}
    {event : OutboxEvent Instance Payload} {row : OutboxEventEntity Instance Payload}
    (snapshot : SnapshotInvariant config event) (invariant : RowInvariant config row)
    (owned : lockOwnerFilter lockedBy row = true) (error : ThrownValue) (now : Int) (random : ℚ) :
    RowInvariant config (failureUpdate config lockedBy event error now random row) := by
  have publishing := ((lockOwnerFilter_iff lockedBy row).mp owned).2
  have publishedAt : ¬ row.publishedAt.isSome := fun set => by
    have published := invariant.publishedAt_iff.mp set
    rw [publishing] at published
    exact OutboxEventStatus.noConfusion published
  obtain ⟨nonneg, left⟩ := snapshot
  by_cases exhausted : event.attempts + 1 ≥ config.maxAttempts
  · rw [failureUpdate, if_pos exhausted]
    exact {
      lockedBy_iff := by simp [failedUpdate]
      lockedAt_iff := by simp [failedUpdate]
      publishedAt_iff := by simpa [failedUpdate] using publishedAt
      attempts_live := fun live => by simp [failedUpdate] at live
      attempts_failed := fun _ => le_antisymm left exhausted
      lastError_iff := fun _ => by
        simp only [failedUpdate, Option.isSome_some, true_iff]
        omega
      lastError_published := fun published => by simp [failedUpdate] at published }
  · rw [failureUpdate, if_neg exhausted]
    exact {
      lockedBy_iff := by simp [retryUpdate]
      lockedAt_iff := by simp [retryUpdate]
      publishedAt_iff := by simpa [retryUpdate] using publishedAt
      attempts_live := fun _ => ⟨Int.add_nonneg nonneg (by decide), not_le.mp exhausted⟩
      attempts_failed := fun failed => by simp [retryUpdate] at failed
      lastError_iff := fun _ => by
        simp only [retryUpdate, Option.isSome_some, true_iff]
        omega
      lastError_published := fun published => by simp [retryUpdate] at published }

omit [DecidableEq Instance] in
theorem rowInvariant_redriveUpdate (config : PublisherConfig) (now : Int)
    (row : OutboxEventEntity Instance Payload) : RowInvariant config (redriveUpdate now row) where
  lockedBy_iff := by simp [redriveUpdate]
  lockedAt_iff := by simp [redriveUpdate]
  publishedAt_iff := by simp [redriveUpdate]
  attempts_live _ := ⟨le_refl 0, Int.lt_of_lt_of_le Int.zero_lt_one config.maxAttempts_pos⟩
  attempts_failed failed := by simp [redriveUpdate] at failed
  lastError_iff _ := by simp [redriveUpdate]
  lastError_published published := by simp [redriveUpdate] at published

/-! ### One step -/

/-- The moves of `status` that an operation can make. -/
def OutboxEventStatus.mayBecome : OutboxEventStatus → OutboxEventStatus → Bool
  | .pending, .publishing => true
  | .publishing, _ => true
  | .failed, .pending => true
  | _, _ => false

/-- The snapshot a transition acts on keeps the snapshot invariant. -/
def ActsOnSnapshots (config : PublisherConfig) : OutboxAction Instance Payload → Prop
  | .handlePublishFailure _ event _ _ _ => SnapshotInvariant config event
  | _ => True

theorem RowStep.invariant {config : PublisherConfig} {action : OutboxAction Instance Payload}
    {id : ObjectId} {before after : Option (OutboxEventEntity Instance Payload)}
    (step : RowStep config action id before after) (acts : ActsOnSnapshots config action)
    (invariant : ∀ row ∈ before, RowInvariant config row) :
    ∀ row ∈ after, RowInvariant config row := by
  intro after stored
  cases step with
  | unchanged => exact invariant after stored
  | created _ input =>
    obtain rfl := Option.mem_some_iff.mp stored
    exact rowInvariant_entity config input
  | claimed _ _ _ row eligible =>
    obtain rfl := Option.mem_some_iff.mp stored
    exact rowInvariant_claimUpdate (invariant row rfl) eligible
  | published _ _ publishedAt row =>
    obtain rfl := Option.mem_some_iff.mp stored
    exact rowInvariant_publishedUpdate config publishedAt row
  | failure _ _ error now random row owned =>
    obtain rfl := Option.mem_some_iff.mp stored
    exact rowInvariant_failureUpdate acts (invariant row rfl) owned error now random
  | redriven _ now _ row =>
    obtain rfl := Option.mem_some_iff.mp stored
    exact rowInvariant_redriveUpdate config now row
  | expired => exact absurd stored (Option.not_mem_none after)

/-- A row an operation changes moves along `mayBecome`; a published row does not change. -/
theorem RowStep.moves {config : PublisherConfig} {action : OutboxAction Instance Payload}
    {id : ObjectId} {before after : OutboxEventEntity Instance Payload}
    (step : RowStep config action id (some before) (some after)) :
    after = before ∨ before.status.mayBecome after.status = true := by
  cases step with
  | unchanged => exact Or.inl rfl
  | claimed _ _ _ _ eligible =>
    refine Or.inr ?_
    rcases (claimFilter_iff _ before).mp eligible with ⟨pending, _⟩ | ⟨publishing, _⟩
    · rw [pending]
      rfl
    · rw [publishing]
      rfl
  | published _ _ _ _ owned =>
    rw [((lockOwnerFilter_iff _ before).mp owned).2]
    exact Or.inr rfl
  | failure _ _ _ _ _ _ owned =>
    rw [((lockOwnerFilter_iff _ before).mp owned).2]
    exact Or.inr rfl
  | redriven _ _ _ _ failed =>
    rw [failed]
    exact Or.inr rfl

/-- A row that is not published stays so, and stays there, unless `markPublished` matches it. -/
theorem RowStep.unpublished {config : PublisherConfig} {action : OutboxAction Instance Payload}
    {id : ObjectId} {before : OutboxEventEntity Instance Payload}
    {after : Option (OutboxEventEntity Instance Payload)}
    (step : RowStep config action id (some before) after) (live : before.status ≠ .published) :
    (∃ row, after = some row ∧ row.status ≠ .published) ∨
      ∃ lockedBy event publishedAt, action = .markPublished lockedBy event publishedAt ∧
        event.id = id := by
  cases step with
  | unchanged => exact Or.inl ⟨before, rfl, live⟩
  | claimed => exact Or.inl ⟨_, rfl, fun published => by cases published⟩
  | published lockedBy event publishedAt =>
    exact Or.inr ⟨lockedBy, event, publishedAt, rfl, rfl⟩
  | failure =>
    refine Or.inl ⟨_, rfl, ?_⟩
    rw [failureUpdate]
    split
    · exact fun published => by cases published
    · exact fun published => by cases published
  | redriven => exact Or.inl ⟨_, rfl, fun published => by cases published⟩
  | expired _ _ _ published => exact absurd published live

/-- The fields of a row that say what event it announces. -/
structure AnnouncedEvent (Payload : Type) where
  eventId : JsString
  eventType : JsString
  eventVersion : Nat
  topic : JsString
  key : JsString
  payload : Payload
  createdAt : Int

def OutboxEventEntity.announced (row : OutboxEventEntity Instance Payload) :
    AnnouncedEvent Payload where
  eventId := row.eventId
  eventType := row.eventType
  eventVersion := row.eventVersion
  topic := row.topic
  key := row.key
  payload := row.payload
  createdAt := row.createdAt

/-- No operation changes what a row announces. -/
theorem RowStep.announced {config : PublisherConfig} {action : OutboxAction Instance Payload}
    {id : ObjectId} {before after : OutboxEventEntity Instance Payload}
    (step : RowStep config action id (some before) (some after)) :
    after.announced = before.announced := by
  cases step with
  | unchanged => rfl
  | claimed => rfl
  | published => rfl
  | failure =>
    unfold failureUpdate
    split
    · rfl
    · rfl
  | redriven => rfl

theorem RowStep.appears {config : PublisherConfig} {action : OutboxAction Instance Payload}
    {id : ObjectId} {after : OutboxEventEntity Instance Payload}
    (step : RowStep config action id none (some after)) : after.status = .pending := by
  cases step with
  | created => rfl

/-- Only an insert makes a row appear. -/
theorem RowStep.inserted {config : PublisherConfig} {action : OutboxAction Instance Payload}
    {id : ObjectId} {before : Option (OutboxEventEntity Instance Payload)}
    {after : OutboxEventEntity Instance Payload}
    (step : RowStep config action id before (some after))
    (absent : before = none) : id ∈ action.inserted := by
  cases step with
  | unchanged => exact nomatch absent
  | created => exact List.mem_singleton_self id
  | claimed => exact nomatch absent
  | published => exact nomatch absent
  | failure => exact nomatch absent
  | redriven => exact nomatch absent

theorem RowStep.disappears {config : PublisherConfig} {action : OutboxAction Instance Payload}
    {id : ObjectId} {before : OutboxEventEntity Instance Payload}
    (step : RowStep config action id (some before) none) : before.status = .published := by
  cases step with
  | expired _ _ _ published => exact published

/-! ### The invariant of the system -/

structure LifecycleInvariant (config : PublisherConfig) (state : LifecycleState Instance Payload) :
    Prop where
  rows : ∀ id, ∀ row ∈ state.outbox.find id, RowInvariant config row
  snapshots : ∀ receiver, ∀ event ∈ state.snapshots receiver, SnapshotInvariant config event

omit [DecidableEq Instance] in
theorem LifecycleInvariant.initial (config : PublisherConfig) :
    LifecycleInvariant config (LifecycleState.initial : LifecycleState Instance Payload) where
  rows _ row stored := absurd stored (Option.not_mem_none row)
  snapshots _ _ member := absurd member List.not_mem_nil

/-- A snapshot is handed out by a claim of a row with attempts left. -/
theorem snapshotInvariant_of_handedOut {config : PublisherConfig}
    {action : OutboxAction Instance Payload} {outbox : OutboxCollection Instance Payload}
    (rows : ∀ id, ∀ row ∈ outbox.find id, RowInvariant config row) {receiver : Instance}
    {event : OutboxEvent Instance Payload}
    (handed : event ∈ handedOut config action outbox receiver) :
    SnapshotInvariant config event := by
  cases action with
  | claim lockedBy now =>
    simp only [handedOut] at handed
    split at handed
    · obtain ⟨⟨claimed, next⟩, found, rfl⟩ :=
        Option.map_eq_some_iff.mp (Option.mem_toList.mp handed)
      obtain ⟨before, stored, eligible, same, _, _⟩ := claimOne_eq_some found
      have attempts : claimed.attempts = before.attempts := by
        rw [same]
        rfl
      show 0 ≤ claimed.attempts ∧ claimed.attempts < config.maxAttempts
      rw [attempts]
      exact attempts_of_claimFilter (rows claimed.id before stored) eligible
    · exact absurd handed List.not_mem_nil
  | create => exact absurd handed List.not_mem_nil
  | markPublished => exact absurd handed List.not_mem_nil
  | handlePublishFailure => exact absurd handed List.not_mem_nil
  | redriveFailed => exact absurd handed List.not_mem_nil
  | expire => exact absurd handed List.not_mem_nil

variable [DecidableEq Payload]

theorem lifecycleStep_eq_some {config : PublisherConfig}
    {state next : LifecycleState Instance Payload} {action : OutboxAction Instance Payload}
    (moved : lifecycleStep config state action = some next) :
    permitted state.snapshots action = true ∧
      perform config action state.outbox = some next.outbox ∧
      ∀ receiver, next.snapshots receiver =
        state.snapshots receiver ++ handedOut config action state.outbox receiver := by
  rw [lifecycleStep] at moved
  split at moved
  · rename_i allowed
    obtain ⟨outbox, performed, rfl⟩ := Option.map_eq_some_iff.mp moved
    exact ⟨allowed, performed, fun _ => rfl⟩
  · exact absurd moved (Option.some_ne_none next).symm

theorem actsOnSnapshots_of_permitted {config : PublisherConfig}
    {state : LifecycleState Instance Payload} (invariant : LifecycleInvariant config state)
    {action : OutboxAction Instance Payload} (allowed : permitted state.snapshots action = true) :
    ActsOnSnapshots config action := by
  cases action with
  | handlePublishFailure lockedBy event =>
    exact invariant.snapshots lockedBy event (of_decide_eq_true allowed)
  | create => trivial
  | claim => trivial
  | markPublished => trivial
  | redriveFailed => trivial
  | expire => trivial

theorem lifecycleStep_invariant {config : PublisherConfig}
    {state next : LifecycleState Instance Payload} {action : OutboxAction Instance Payload}
    (invariant : LifecycleInvariant config state)
    (moved : lifecycleStep config state action = some next) : LifecycleInvariant config next := by
  obtain ⟨allowed, performed, snapshots⟩ := lifecycleStep_eq_some moved
  refine ⟨fun id => ?_, fun receiver event member => ?_⟩
  · exact (perform_row performed id).invariant (actsOnSnapshots_of_permitted invariant allowed)
      (invariant.rows id)
  · rw [snapshots, List.mem_append] at member
    rcases member with old | handed
    · exact invariant.snapshots receiver event old
    · exact snapshotInvariant_of_handedOut invariant.rows handed

theorem lifecycle_invariant {config : PublisherConfig}
    {actions : List (OutboxAction Instance Payload)} {state : LifecycleState Instance Payload}
    (reached : Transition.run (lifecycleStep config) .initial actions = some state) :
    LifecycleInvariant config state :=
  Transition.run_invariant (fun _ _ _ invariant moved => lifecycleStep_invariant invariant moved)
    (LifecycleInvariant.initial config) reached

/-! ### No row is wedged -/

section Wedged

variable {Instance Payload : Type}

/-- How many claimable rows a claim would take before the row under `id`. -/
def eligibleBefore (input : ClaimPublishableOutboxEventsInput Instance)
    (outbox : OutboxCollection Instance Payload) (id : ObjectId) : Nat :=
  (outbox.select fun _ row => claimFilter input row).countP fun other => decide (other < id)

/-- A row just claimed is not claimable with the same input. -/
theorem claimFilter_claimUpdate {input : ClaimPublishableOutboxEventsInput Instance}
    (timeout : 0 < input.lockTimeoutMs) (row : OutboxEventEntity Instance Payload) :
    claimFilter input (claimUpdate input row) = false := by
  rw [← Bool.not_eq_true, claimFilter_iff]
  rintro (⟨pending, _⟩ | ⟨_, lockedAt, locked, expired⟩)
  · exact OutboxEventStatus.noConfusion pending
  · obtain rfl := Option.some.inj locked
    omega

theorem claimOne_select {input : ClaimPublishableOutboxEventsInput Instance}
    (timeout : 0 < input.lockTimeoutMs) {outbox next : OutboxCollection Instance Payload}
    {event : OutboxEvent Instance Payload} (claimed : claimOne input outbox = some (event, next)) :
    (next.select fun _ row => claimFilter input row) =
      (outbox.select fun _ row => claimFilter input row).filter fun id => id ≠ event.id := by
  obtain ⟨_, _, _, _, _, rfl⟩ := claimOne_eq_some claimed
  exact Collection.select_updateOne outbox event.id
    fun row _ => claimFilter_claimUpdate timeout row

/-- Each claim of a row before another leaves one fewer before it. -/
theorem eligibleBefore_claimOne {input : ClaimPublishableOutboxEventsInput Instance}
    (timeout : 0 < input.lockTimeoutMs) {outbox next : OutboxCollection Instance Payload}
    {event : OutboxEvent Instance Payload} (claimed : claimOne input outbox = some (event, next))
    {id : ObjectId} (before : event.id < id) :
    eligibleBefore input next id < eligibleBefore input outbox id := by
  obtain ⟨row, stored, eligible, _, _, _⟩ := claimOne_eq_some claimed
  have member : event.id ∈ outbox.select fun _ row => claimFilter input row :=
    Collection.mem_select.mpr ⟨row, stored, eligible⟩
  unfold eligibleBefore
  rw [claimOne_select timeout claimed, List.countP_eq_length_filter, List.countP_eq_length_filter,
    List.filter_comm, List.length_filter_lt_length_iff_exists]
  refine ⟨event.id, List.mem_filter.mpr ⟨member, decide_eq_true before⟩, ?_⟩
  simp

/-- The loop reaches a claimable row once the claimable rows before it are taken. -/
theorem mem_claimLoop {input : ClaimPublishableOutboxEventsInput Instance}
    (timeout : 0 < input.lockTimeoutMs) {id : ObjectId} {remaining : Nat}
    {outbox : OutboxCollection Instance Payload}
    (eligible : id ∈ outbox.select fun _ row => claimFilter input row)
    (enough : eligibleBefore input outbox id < remaining) :
    ∃ event ∈ (claimLoop input remaining outbox).1, event.id = id := by
  induction remaining generalizing outbox with
  | zero => exact absurd enough (Nat.not_lt_zero _)
  | succ remaining inductionHypothesis =>
    cases taken : claimOne input outbox with
    | none =>
      obtain ⟨row, stored, accepted⟩ := Collection.mem_select.mp eligible
      rw [claimOne_eq_none.mp taken id row stored] at accepted
      exact absurd accepted Bool.false_ne_true
    | some claimed =>
      obtain ⟨event, next⟩ := claimed
      simp only [claimLoop, taken]
      by_cases same : event.id = id
      · exact ⟨event, List.mem_cons_self, same⟩
      · obtain ⟨_, _, _, _, lower, _⟩ := claimOne_eq_some taken
        have before : event.id < id := lt_of_le_of_ne (lower id eligible) same
        have left := claimOne_select timeout taken
        have stillEligible : id ∈ next.select fun _ row => claimFilter input row := by
          rw [left, List.mem_filter]
          exact ⟨eligible, decide_eq_true (Ne.symm same)⟩
        have fewer := eligibleBefore_claimOne timeout taken before
        obtain ⟨found, member, here⟩ :=
          inductionHypothesis stillEligible (by omega)
        exact ⟨found, List.mem_cons_of_mem _ member, here⟩

/-- From some instant on, a pending or publishing row is claimable. -/
theorem eventually_claimFilter {config : PublisherConfig}
    {row : OutboxEventEntity Instance Payload} (invariant : RowInvariant config row)
    (live : row.status = .pending ∨ row.status = .publishing) :
    ∃ instant, ∀ input : ClaimPublishableOutboxEventsInput Instance,
      input.lockTimeoutMs = config.lockTimeoutMs → instant ≤ input.now →
        claimFilter input row = true := by
  rcases live with pending | publishing
  · refine ⟨row.nextAttemptAt, fun input _ due => ?_⟩
    exact (claimFilter_iff input row).mpr (Or.inl ⟨pending, due⟩)
  · obtain ⟨lockedAt, locked⟩ :=
      Option.isSome_iff_exists.mp (invariant.lockedAt_iff.mpr publishing)
    refine ⟨lockedAt + config.lockTimeoutMs, fun input timeout due => ?_⟩
    refine (claimFilter_iff input row).mpr (Or.inr ⟨publishing, lockedAt, locked, ?_⟩)
    omega

theorem eventually_claimPublishable {config : PublisherConfig}
    {outbox : OutboxCollection Instance Payload} {id : ObjectId}
    {row : OutboxEventEntity Instance Payload} (stored : outbox.find id = some row)
    (invariant : RowInvariant config row)
    (live : row.status = .pending ∨ row.status = .publishing) :
    ∃ instant, ∀ input : ClaimPublishableOutboxEventsInput Instance,
      input.lockTimeoutMs = config.lockTimeoutMs → instant ≤ input.now →
        eligibleBefore input outbox id < input.batchSize →
          ∃ event ∈ (claimPublishable input outbox).1, event.id = id := by
  obtain ⟨instant, eligible⟩ := eventually_claimFilter invariant live
  refine ⟨instant, fun input timeout due enough => ?_⟩
  refine mem_claimLoop (timeout ▸ config.lockTimeoutMs_pos) ?_ enough
  exact Collection.mem_select.mpr ⟨row, stored, eligible input timeout due⟩

end Wedged

/-! ### The lifecycle of a row -/

/-- In every state reachable by any interleaving of the operations, stale ones included: what
the next operation can do to a row, what a row looks like, and that a live row is handed out by
every late enough claim whose batch has room for it. -/
theorem outbox_row_lifecycle (config : PublisherConfig)
    (actions : List (OutboxAction Instance Payload)) (state : LifecycleState Instance Payload)
    (reached : Transition.run (lifecycleStep config) .initial actions = some state) :
    (∀ action next, lifecycleStep config state action = some next → ∀ id,
      (∀ before after, state.outbox.find id = some before → next.outbox.find id = some after →
        after = before ∨ before.status.mayBecome after.status = true) ∧
      (∀ after, state.outbox.find id = none → next.outbox.find id = some after →
        after.status = .pending) ∧
      (∀ before, state.outbox.find id = some before → next.outbox.find id = none →
        before.status = .published)) ∧
    (∀ id row, state.outbox.find id = some row → RowInvariant config row) ∧
    (∀ id row, state.outbox.find id = some row →
      row.status = .pending ∨ row.status = .publishing →
        ∃ instant, ∀ input : ClaimPublishableOutboxEventsInput Instance,
          input.lockTimeoutMs = config.lockTimeoutMs → instant ≤ input.now →
            eligibleBefore input state.outbox id < input.batchSize →
              ∃ event ∈ (claimPublishable input state.outbox).1, event.id = id) := by
  have invariant := lifecycle_invariant reached
  refine ⟨fun action next moved id => ?_, invariant.rows, fun id row stored live => ?_⟩
  · have step := perform_row (lifecycleStep_eq_some moved).2.1 id
    refine ⟨fun before after was is => ?_, fun after was is => ?_, fun before was is => ?_⟩
    · rw [was, is] at step
      exact step.moves
    · rw [was, is] at step
      exact step.appears
    · rw [was, is] at step
      exact step.disappears
  · exact eventually_claimPublishable stored (invariant.rows id row stored) live

/-- A row that failed once, and whose second claim is still open. -/
def retriedActions : List (OutboxAction Bool Unit) :=
  let input : CreateOutboxEventInput Unit :=
    { eventId := [], eventType := [], eventVersion := 1, topic := [], key := [], payload := (),
      nextAttemptAt := 5, createdAt := 5 }
  let event : OutboxEvent Bool Unit :=
    mapOutboxEvent 7 (claimUpdate (PublisherConfig.default.claimInput true 6) input.entity)
  [.create 7 input, .claim true 6, .handlePublishFailure true event (.error []) 8 0,
    .claim false 1000]

theorem outbox_row_lifecycle_retried :
    ∃ state, Transition.run (lifecycleStep .default) .initial retriedActions = some state ∧
      (state.outbox.find 7).any (fun row => decide (row.status = .publishing)) = true ∧
      ∀ id row, state.outbox.find id = some row → RowInvariant .default row := by
  have runs : (Transition.run (lifecycleStep .default) .initial retriedActions).any (fun state =>
      (state.outbox.find 7).any fun row => decide (row.status = .publishing)) = true := by
    decide +kernel
  obtain ⟨state, reached, publishing⟩ := (Option.any_eq_true _ _).mp runs
  exact ⟨state, reached, publishing,
    (outbox_row_lifecycle .default retriedActions state reached).2.1⟩

end MessageManagement
