/-
This file settles what the attempts of a row count.

`publishEvent` publishes and marks in one `try` block, so its `catch` cannot tell
a rejected send from a `markPublished` that threw after the broker acknowledged.
If that update was not applied, the instance still owns the row, and
`handlePublishFailure` counts a failed publish that never was. That is the only
way: as long as no such update is lost, the attempts of a row count rejected
sends only.

The sends are counted beside the publishers, in a state no step reads.
-/

import MessageManagement.FailedTerminal
import MessageManagement.LockOwner

namespace MessageManagement

variable {Instance Payload : Type} [DecidableEq Instance]

/-! ### Counting rejected sends -/

/-- The publishers, the rejected sends of each row since its creation or its last redrive, and
whether the last send of an instance was acknowledged. -/
structure SendAudit (Instance Payload : Type) where
  publishers : PublisherState Instance Payload
  rejected : ObjectId → Nat
  acknowledged : Instance → Bool

def SendAudit.initial : SendAudit Instance Payload where
  publishers := .initial
  rejected _ := 0
  acknowledged _ := false

def rejectedAfter (state : PublisherState Instance Payload)
    (action : PublisherAction Instance Payload) (id : ObjectId) (rejected : Nat) : Nat :=
  match action with
  | .send _ (.rejected _ _) => if sends state action = some id then rejected + 1 else rejected
  | .redriveFailed selected =>
    if decide (id ∈ selected) && (state.outbox.find id).any fun row => row.status == .failed then 0
    else rejected
  | _ => rejected

def acknowledgedAfter (action : PublisherAction Instance Payload) (publisher : Instance)
    (acknowledged : Bool) : Bool :=
  match action with
  | .send sender outcome => if publisher = sender then outcome.isAcknowledged else acknowledged
  | _ => acknowledged

/-- One step of the publishers, with its send counted. -/
def auditStep (config : PublisherConfig) (state : SendAudit Instance Payload)
    (label : PublisherLabel Instance Payload) : Option (SendAudit Instance Payload) :=
  (publisherStep config state.publishers label).map fun publishers =>
    { publishers
      rejected := fun id => rejectedAfter state.publishers label.action id (state.rejected id)
      acknowledged := fun publisher =>
        acknowledgedAfter label.action publisher (state.acknowledged publisher) }

/-! ### What is promised, and when it is kept -/

/-- What a failed publish does to a row: it counts, and the row is retried or given up. -/
def Penalized (before after : OutboxEventEntity Instance Payload) : Prop :=
  before.status ≠ .failed ∧
    (before.attempts < after.attempts ∨
      before.status = .publishing ∧ after.status = .pending ∨ after.status = .failed)

/-- The step is the failure handling of the instance for the row. -/
def HandlesFailure (state : PublisherState Instance Payload)
    (action : PublisherAction Instance Payload) (publisher : Instance) (id : ObjectId) : Prop :=
  ∃ current error rest random, state.phase publisher = .failing current error rest ∧
    current.event.id = id ∧ (action = .handlePublishFailure publisher random ∨
      action = .handlePublishFailureFails publisher random true)

/-- A row is moved to `failed` only after as many rejected sends as a row may have, and no row
is penalized for an acknowledged send. -/
def CountsRejected (config : PublisherConfig) (state : SendAudit Instance Payload)
    (label : PublisherLabel Instance Payload) : Prop :=
  ∀ next, publisherStep config state.publishers label = some next → ∀ id after,
    next.outbox.find id = some after →
      (after.status = .failed →
        (∀ before ∈ state.publishers.outbox.find id, before.status ≠ .failed) →
          config.maxAttempts ≤ state.rejected id) ∧
      ∀ before, state.publishers.outbox.find id = some before → Penalized before after →
        ∃ publisher, HandlesFailure state.publishers label.action publisher id ∧
          state.acknowledged publisher = false

/-- A `markPublished` is lost: it throws and was not applied, though it would have matched. -/
def MarkLost (state : PublisherState Instance Payload)
    (label : PublisherLabel Instance Payload) : Prop :=
  ∃ publisher current rest error, state.phase publisher = .marking current rest ∧
    label.action = .markPublishedFails publisher false error ∧
    (state.outbox.find current.event.id).any (lockOwnerFilter publisher) = true

/-- A failure is counted on a snapshot with more attempts than its row has. -/
def StaleFailure (state : PublisherState Instance Payload)
    (label : PublisherLabel Instance Payload) : Prop :=
  ∃ publisher current error rest row, state.phase publisher = .failing current error rest ∧
    HandlesFailure state label.action publisher current.event.id ∧
    state.outbox.find current.event.id = some row ∧ lockOwnerFilter publisher row = true ∧
    row.attempts < current.event.attempts

/-! ### What a step leaves -/

section Step

variable {config : PublisherConfig} {publishers next : PublisherState Instance Payload}
  {label : PublisherLabel Instance Payload} {publisher : Instance}

/-- A row an instance owns after a step that is no claim of the instance is as it was. -/
theorem owned_before (moved : publisherStep config publishers label = some next)
    (settled : (publishers.phase publisher).isClaiming = false) {id : ObjectId}
    {row : OutboxEventEntity Instance Payload} (stored : next.outbox.find id = some row)
    (owned : lockOwnerFilter publisher row = true) :
    publishers.outbox.find id = some row := by
  obtain ⟨owner, publishing⟩ := (lockOwnerFilter_iff publisher row).mp owned
  rcases (publisherStep_move moved).outbox with same | ⟨write, performed, issues⟩
  · rw [← same]
    exact stored
  · have change := perform_row performed id
    rw [stored] at change
    generalize publishers.outbox.find id = before at change ⊢
    generalize label.action = action at issues
    cases change with
    | unchanged => rfl
    | created => exact nomatch publishing
    | claimed other now _ row eligible =>
      obtain rfl : other = publisher := Option.some.inj owner
      cases issues with
      | claim _ _ _ was =>
        rw [was] at settled
        exact nomatch settled
    | published => exact nomatch publishing
    | failure _ _ _ _ _ row => exact absurd publishing (failureUpdate_status _ _ _ _ _ _ row)
    | redriven => exact nomatch publishing

omit [DecidableEq Instance] in
theorem le_rejectedAfter {action : PublisherAction Instance Payload} {id : ObjectId}
    (kept : ∀ selected, action = .redriveFailed selected →
      ∀ row ∈ publishers.outbox.find id, row.status ≠ .failed) (rejected : Nat) :
    rejected ≤ rejectedAfter publishers action id rejected := by
  cases action with
  | send sender outcome =>
    cases outcome with
    | acknowledged => exact le_refl _
    | rejected appended error =>
      rw [rejectedAfter]
      split
      · exact Nat.le_succ _
      · exact le_refl _
  | redriveFailed selected =>
    have unselected : (decide (id ∈ selected) &&
        (publishers.outbox.find id).any fun row => row.status == .failed) = false := by
      rw [Bool.and_eq_false_iff, Option.any_eq_false]
      exact Or.inr fun row stored => beq_eq_false_iff_ne.mpr (kept selected rfl row stored)
    rw [rejectedAfter, if_neg (Bool.eq_false_iff.mp unselected)]
  | _ => exact le_refl _

omit [DecidableEq Instance] in
theorem rejectedAfter_send {current : ClaimedEvent Instance Payload}
    {rest : List (ClaimedEvent Instance Payload)} (appended : Bool) (error : ThrownValue)
    (was : publishers.phase publisher = .publishing (current :: rest)) (rejected : Nat) :
    rejectedAfter publishers (.send publisher (.rejected appended error)) current.event.id
      rejected = rejected + 1 := by
  rw [rejectedAfter, sends, was, if_pos rfl]

/-- Only a send changes what the last send of an instance was, and only while it publishes. -/
theorem acknowledgedAfter_of_settled (moved : publisherStep config publishers label = some next)
    (settled : ∀ batch, publishers.phase publisher ≠ .publishing batch) (acknowledged : Bool) :
    acknowledgedAfter label.action publisher acknowledged = acknowledged := by
  have transition := publisherStep_transition moved
  generalize label.time = time, label.action = action at transition ⊢
  have other : ∀ {sender batch}, publishers.phase sender = .publishing batch →
      publisher ≠ sender := by
    rintro sender batch was rfl
    exact settled batch was
  cases transition with
  | acknowledged was => exact if_neg (other was)
  | rejected was => exact if_neg (other was)
  | environment outside wrote =>
    cases action with
    | send sender outcome => cases outside
    | _ => rfl
  | _ => rfl

/-- A lost `markPublished` apart, an instance whose marking threw owns the row no more. -/
theorem not_owned_of_markPublishedFails {time : Int} {applied : Bool} {error : ThrownValue}
    (moved : publisherStep config publishers ⟨time, .markPublishedFails publisher applied error⟩ =
      some next)
    (kept : ¬ MarkLost publishers ⟨time, .markPublishedFails publisher applied error⟩)
    {current : ClaimedEvent Instance Payload} {rest : List (ClaimedEvent Instance Payload)}
    (was : publishers.phase publisher = .marking current rest)
    {row : OutboxEventEntity Instance Payload}
    (stored : next.outbox.find current.event.id = some row) :
    lockOwnerFilter publisher row = false := by
  refine Bool.eq_false_iff.mpr fun owned => ?_
  have before := owned_before moved (by rw [was]; rfl) stored owned
  cases applied with
  | false =>
    refine kept ⟨publisher, current, rest, error, was, rfl, ?_⟩
    rw [before, Option.any_some, owned]
  | true =>
    simp only [publisherStep, was, PublisherState.writeIf, if_true] at moved
    obtain ⟨written, wrote, rfl⟩ := Option.map_eq_some_iff.mp moved
    obtain ⟨performed, _, _⟩ := write_eq_some wrote
    rw [perform, Option.some_inj] at performed
    have marked : written.outbox.find current.event.id = some (publishedUpdate time row) := by
      rw [← performed, markPublished, Collection.find_updateOne_self, before, Option.map_some,
        if_pos owned]
    have same : publishedUpdate time row = row := Option.some.inj (marked.symm.trans stored)
    rw [← same] at owned
    have publishing := ((lockOwnerFilter_iff publisher _).mp owned).2
    cases publishing

end Step

/-! ### The invariant -/

/-- Attempts are covered by rejected sends; an instance that handles a failure either had its
send rejected, which its row does not count yet, or owns the row no more. -/
structure AuditInvariant (state : SendAudit Instance Payload) : Prop where
  rows : ∀ id row, state.publishers.outbox.find id = some row → row.attempts ≤ state.rejected id
  marking : ∀ publisher current rest, state.publishers.phase publisher = .marking current rest →
    state.acknowledged publisher = true
  rejected : ∀ publisher current error rest,
    state.publishers.phase publisher = .failing current error rest →
      state.acknowledged publisher = false →
        ∀ row, state.publishers.outbox.find current.event.id = some row →
          lockOwnerFilter publisher row = true →
            row.attempts + 1 ≤ state.rejected current.event.id
  acknowledged : ∀ publisher current error rest,
    state.publishers.phase publisher = .failing current error rest →
      state.acknowledged publisher = true →
        ∀ row, state.publishers.outbox.find current.event.id = some row →
          lockOwnerFilter publisher row = false

theorem AuditInvariant.initial : AuditInvariant (.initial : SendAudit Instance Payload) where
  rows _ _ stored := nomatch stored
  marking _ _ _ phase := nomatch phase
  rejected _ _ _ _ phase := nomatch phase
  acknowledged _ _ _ _ phase := nomatch phase

section Invariant

variable {config : PublisherConfig} {state : SendAudit Instance Payload}
  {next : PublisherState Instance Payload} {label : PublisherLabel Instance Payload}

/-- A failure counts one more than its snapshot has, and a rejected send covers it. -/
theorem AuditInvariant.failure (invariant : AuditInvariant state)
    (fresh : ¬ StaleFailure state.publishers label) {publisher : Instance}
    {current : ClaimedEvent Instance Payload} {error : ThrownValue}
    {rest : List (ClaimedEvent Instance Payload)}
    (handles : HandlesFailure state.publishers label.action publisher current.event.id)
    (was : state.publishers.phase publisher = .failing current error rest)
    {row : OutboxEventEntity Instance Payload}
    (stored : state.publishers.outbox.find current.event.id = some row)
    (owned : lockOwnerFilter publisher row = true) :
    state.acknowledged publisher = false ∧
      current.event.attempts + 1 ≤ state.rejected current.event.id := by
  have refused : state.acknowledged publisher = false := by
    refine Bool.eq_false_iff.mpr fun acknowledged => ?_
    rw [invariant.acknowledged publisher current error rest was acknowledged row stored] at owned
    cases owned
  have covered := invariant.rejected publisher current error rest was refused row stored owned
  have known : current.event.attempts ≤ row.attempts := by
    refine le_of_not_gt fun stale => fresh ?_
    exact ⟨publisher, current, error, rest, row, was, handles, stored, owned, stale⟩
  exact ⟨refused, le_trans (Int.add_le_add_right known 1) covered⟩

/-- A redrive resets the attempts of a row with its count. -/
theorem AuditInvariant.rows_redrive (invariant : AuditInvariant state) {time : Int}
    {selected : List ObjectId}
    (moved : publisherStep config state.publishers ⟨time, .redriveFailed selected⟩ = some next)
    {id : ObjectId} {row : OutboxEventEntity Instance Payload}
    (stored : next.outbox.find id = some row) :
    row.attempts ≤ rejectedAfter state.publishers (.redriveFailed selected) id
      (state.rejected id) := by
  obtain ⟨performed, _, _⟩ := write_eq_some moved
  rw [perform, Option.some_inj] at performed
  rw [← performed, redriveSelected, Collection.find_updateMany] at stored
  dsimp only [rejectedAfter]
  cases before : state.publishers.outbox.find id with
  | none =>
    rw [before] at stored
    cases stored
  | some earlier =>
    rw [before, Option.map_some, Option.some_inj] at stored
    rw [Option.any_some]
    split at stored
    · rename_i taken
      rw [if_pos taken, ← stored]
      exact le_refl _
    · rename_i left
      rw [if_neg left, ← stored]
      exact invariant.rows id earlier before

theorem AuditInvariant.rows_step (invariant : AuditInvariant state)
    (fresh : ¬ StaleFailure state.publishers label)
    (moved : publisherStep config state.publishers label = some next) {id : ObjectId}
    {row : OutboxEventEntity Instance Payload} (stored : next.outbox.find id = some row) :
    row.attempts ≤ rejectedAfter state.publishers label.action id (state.rejected id) := by
  have unlessRedriven : (∀ selected, label.action ≠ .redriveFailed selected) →
      row.attempts ≤ rejectedAfter state.publishers label.action id (state.rejected id) := by
    intro other
    have grows : state.rejected id ≤
        rejectedAfter state.publishers label.action id (state.rejected id) :=
      le_rejectedAfter (fun selected same => absurd same (other selected)) _
    refine le_trans ?_ (Int.ofNat_le.mpr grows)
    rcases (publisherStep_move moved).outbox with same | ⟨write, performed, issues⟩
    · exact invariant.rows id row (same ▸ stored)
    · have change := perform_row performed id
      rw [stored] at change
      generalize before : state.publishers.outbox.find id = earlier at change
      generalize acts : label.action = action at issues other
      cases change with
      | unchanged => exact invariant.rows id row before
      | created => exact Int.natCast_nonneg _
      | claimed _ _ _ earlier => exact invariant.rows id earlier before
      | published _ _ _ earlier => exact invariant.rows _ earlier before
      | failure lockedBy event error now random earlier owned =>
        cases issues with
        | handlePublishFailure _ current _ rest _ _ handles was =>
          rw [failureUpdate_attempts]
          exact (invariant.failure fresh ⟨current, error, rest, random, was, rfl, acts ▸ handles⟩
            was before owned).2
      | redriven selected =>
        cases issues with
        | redriveFailed => exact absurd rfl (other selected)
  obtain ⟨time, action⟩ := label
  cases action with
  | redriveFailed selected => exact invariant.rows_redrive moved stored
  | _ => exact unlessRedriven (fun _ same => nomatch same)

/-- The invariant is kept unless a `markPublished` is lost or a stale failure is counted. -/
theorem AuditInvariant.step (invariant : AuditInvariant state)
    (kept : ¬ MarkLost state.publishers label) (fresh : ¬ StaleFailure state.publishers label)
    {after : SendAudit Instance Payload} (stepped : auditStep config state label = some after) :
    AuditInvariant after := by
  obtain ⟨next, moved, rfl⟩ := Option.map_eq_some_iff.mp stepped
  have settled : ∀ {publisher : Instance} {phase : Phase Instance Payload},
      state.publishers.phase publisher = phase → (∀ batch, phase ≠ .publishing batch) →
        acknowledgedAfter label.action publisher (state.acknowledged publisher) =
          state.acknowledged publisher := by
    rintro publisher phase rfl elsewhere
    exact acknowledgedAfter_of_settled moved elsewhere _
  refine ⟨fun id row stored => invariant.rows_step fresh moved stored,
    fun publisher current rest marks => ?_,
    fun publisher current error rest fails refused row stored owned => ?_,
    fun publisher current error rest fails acknowledged row stored => ?_⟩
  · rcases marking_step moved marks with was | ⟨was, sent⟩
    · exact (settled was fun _ same => by cases same).trans
        (invariant.marking publisher current rest was)
    · dsimp only
      rw [sent]
      exact if_pos rfl
  · dsimp only at refused ⊢
    rcases failing_step moved fails with was | ⟨was, appended, sent⟩ | ⟨was, applied, marked⟩
    · rw [settled was fun _ same => by cases same] at refused
      have before := owned_before moved (by rw [was]; rfl) stored owned
      have covered := invariant.rejected publisher current error rest was refused row before owned
      have live : ∀ other ∈ state.publishers.outbox.find current.event.id,
          other.status ≠ .failed := by
        intro other stored
        rw [before, Option.mem_some_iff] at stored
        rw [← stored, ((lockOwnerFilter_iff publisher row).mp owned).2]
        exact fun failed => by cases failed
      exact le_trans covered (Int.ofNat_le.mpr (le_rejectedAfter (fun _ _ => live) _))
    · have before := owned_before moved (by rw [was]; rfl) stored owned
      rw [sent, rejectedAfter_send appended error was, Nat.cast_succ]
      exact Int.add_le_add_right (invariant.rows current.event.id row before) 1
    · rw [settled was (fun _ same => by cases same), invariant.marking publisher current rest was]
        at refused
      cases refused
  · dsimp only at acknowledged
    rcases failing_step moved fails with was | ⟨was, appended, sent⟩ | ⟨was, applied, marked⟩
    · rw [settled was fun _ same => by cases same] at acknowledged
      refine Bool.eq_false_iff.mpr fun owned => ?_
      have before := owned_before moved (by rw [was]; rfl) stored owned
      rw [invariant.acknowledged publisher current error rest was acknowledged row before] at owned
      cases owned
    · rw [sent, acknowledgedAfter, if_pos rfl] at acknowledged
      cases acknowledged
    · obtain ⟨time, action⟩ := label
      obtain rfl : action = _ := marked
      exact not_owned_of_markPublishedFails moved kept was stored

omit [DecidableEq Instance] in
theorem not_penalized_self (row : OutboxEventEntity Instance Payload) : ¬ Penalized row row := by
  rintro ⟨live, more | ⟨publishing, pending⟩ | failed⟩
  · exact lt_irrefl _ more
  · exact nomatch publishing.symm.trans pending
  · exact live failed

/-- What the invariant promises of the next step. -/
theorem AuditInvariant.countsRejected (invariant : AuditInvariant state)
    (fresh : ¬ StaleFailure state.publishers label) : CountsRejected config state label := by
  intro next moved id after stored
  rcases (publisherStep_move moved).outbox with same | ⟨write, performed, issues⟩
  · rw [same] at stored
    refine ⟨fun failed live => absurd failed (live after stored), fun before found penalized => ?_⟩
    obtain rfl : after = before := Option.some.inj (stored.symm.trans found)
    exact absurd penalized (not_penalized_self after)
  · have change := perform_row performed id
    rw [stored] at change
    generalize found : state.publishers.outbox.find id = earlier at change ⊢
    generalize acts : label.action = action at issues ⊢
    cases change with
    | unchanged =>
      refine ⟨fun failed live => absurd failed (live after rfl), fun before same penalized => ?_⟩
      obtain rfl : after = before := Option.some.inj same
      exact absurd penalized (not_penalized_self after)
    | created => exact ⟨fun failed => (by cases failed), fun before same => by cases same⟩
    | claimed _ _ _ earlier =>
      refine ⟨fun failed => (by cases failed), fun before same penalized => ?_⟩
      obtain rfl := Option.some.inj same
      rcases penalized.2 with more | ⟨_, pending⟩ | failed
      · exact absurd more (lt_irrefl _)
      · cases pending
      · cases failed
    | published _ _ _ earlier =>
      refine ⟨fun failed => (by cases failed), fun before same penalized => ?_⟩
      obtain rfl := Option.some.inj same
      rcases penalized.2 with more | ⟨_, pending⟩ | failed
      · exact absurd more (lt_irrefl _)
      · cases pending
      · cases failed
    | failure lockedBy event error now random earlier owned =>
      cases issues with
      | handlePublishFailure _ current _ rest _ _ handles was =>
        have handled : HandlesFailure state.publishers action lockedBy current.event.id :=
          ⟨current, error, rest, random, was, rfl, handles⟩
        obtain ⟨refused, covered⟩ := invariant.failure fresh (acts ▸ handled) was found owned
        refine ⟨fun failed _ => ?_, fun before _ _ => ⟨lockedBy, handled, refused⟩⟩
        rw [failureUpdate] at failed
        split at failed
        · rename_i exhausted
          exact le_trans exhausted covered
        · cases failed
    | redriven selected now _ earlier failed =>
      refine ⟨fun failed => (by cases failed), fun before same penalized => ?_⟩
      obtain rfl := Option.some.inj same
      exact absurd failed penalized.1

end Invariant

/-! ### One clock -/

theorem publishers_run {config : PublisherConfig}
    {labels : List (PublisherLabel Instance Payload)} {state : SendAudit Instance Payload}
    (reached : Transition.run (auditStep config) .initial labels = some state) :
    Transition.run (publisherStep config) .initial labels = some state.publishers := by
  have projects : ∀ (state : SendAudit Instance Payload) label next,
      auditStep config state label = some next →
        publisherStep config state.publishers label = some next.publishers := by
    intro state label next stepped
    obtain ⟨publishers, moved, rfl⟩ := Option.map_eq_some_iff.mp stepped
    exact moved
  exact Transition.run_projected projects reached

/-- On one clock no failure is stale. -/
theorem not_stale_of_ordered {config : PublisherConfig}
    {labels : List (PublisherLabel Instance Payload)}
    (ordered : labels.Pairwise fun first second => first.time ≤ second.time) :
    Transition.Along (auditStep config) (fun state label => ¬ StaleFailure state.publishers label)
      .initial labels := by
  refine Transition.along_of_reached ?_
  rintro earlier label later state rfl reached
  rintro ⟨publisher, current, error, rest, row, was, _, stored, owned, stale⟩
  obtain ⟨clock, invariant⟩ :=
    lease_invariant (List.pairwise_append.mp ordered).1 (publishers_run reached)
  have held : current ∈ (state.publishers.phase publisher).held := by
    rw [was]
    exact List.mem_cons_self
  exact absurd (invariant.tenure publisher current held row stored owned).2 (ne_of_lt stale)

/-! ### One instance -/

/-- The instance a step is a step of. -/
def PublisherAction.publisher : PublisherAction Instance Payload → Option Instance
  | .startRun publisher => some publisher
  | .claim publisher => some publisher
  | .claimFails publisher _ => some publisher
  | .send publisher _ => some publisher
  | .markPublished publisher => some publisher
  | .markPublishedFails publisher _ _ => some publisher
  | .handlePublishFailure publisher _ => some publisher
  | .handlePublishFailureFails publisher _ _ => some publisher
  | .finishRun publisher => some publisher
  | .crash publisher => some publisher
  | .create _ _ => none
  | .redriveFailed _ => none
  | .expire _ => none

omit [DecidableEq Instance] in
theorem PhaseStep.actor {publisher : Instance} {time : Int}
    {action : PublisherAction Instance Payload} {before after : Phase Instance Payload}
    (step : PhaseStep publisher time action before after) : action.publisher = some publisher := by
  cases step with
  | _ => rfl

/-- What holds while no other instance takes a step: the rows of the batch stay under its lease,
and a row the instance owns has the attempts of its snapshot. -/
structure SoleInvariant (publisher : Instance) (state : PublisherState Instance Payload) :
    Prop where
  others : ∀ other, other ≠ publisher → state.phase other = .idle
  tenure : ∀ claimed ∈ (state.phase publisher).held,
    ∀ row, state.outbox.find claimed.event.id = some row → lockOwnerFilter publisher row = true →
      row.attempts = claimed.event.attempts
  leased : ∀ now batch, state.phase publisher = .claiming now batch → ∀ claimed ∈ batch,
    ∃ row, state.outbox.find claimed.event.id = some row ∧
      lockOwnerFilter publisher row = true ∧ row.lockedAt = some now

theorem SoleInvariant.initial (publisher : Instance) :
    SoleInvariant publisher (.initial : PublisherState Instance Payload) where
  others _ _ := rfl
  tenure _ member := absurd member List.not_mem_nil
  leased _ _ phase := nomatch phase

section Sole

variable {config : PublisherConfig} {state next : PublisherState Instance Payload}
  {publisher : Instance}

/-- A change of phase that starts no claim, of this instance or, with no effect, of another. -/
theorem SoleInvariant.setPhase (invariant : SoleInvariant publisher state) {other : Instance}
    {phase : Phase Instance Payload} (idle : other ≠ publisher → phase = .idle)
    (tenure : other = publisher → ∀ claimed ∈ phase.held, ∀ row,
      state.outbox.find claimed.event.id = some row → lockOwnerFilter publisher row = true →
        row.attempts = claimed.event.attempts)
    (leased : ∀ now batch, phase = .claiming now batch → ∀ claimed ∈ batch,
      ∃ row, state.outbox.find claimed.event.id = some row ∧
        lockOwnerFilter publisher row = true ∧ row.lockedAt = some now) :
    SoleInvariant publisher (state.setPhase other phase) := by
  refine ⟨fun third different => ?_, fun claimed member => ?_, fun now batch claiming => ?_⟩
  · rw [setPhase_phase]
    split
    · rename_i same
      exact idle (same ▸ different)
    · exact invariant.others third different
  · rw [setPhase_phase] at member
    split at member
    · rename_i same
      exact tenure same.symm claimed member
    · exact invariant.tenure claimed member
  · rw [setPhase_phase] at claiming
    split at claiming
    · exact leased now batch claiming
    · exact invariant.leased now batch claiming

/-- An operation that leaves the rows the instance owns. -/
theorem SoleInvariant.kept (invariant : SoleInvariant publisher state)
    {written : PublisherState Instance Payload} {write : OutboxAction Instance Payload}
    (wrote : state.write config write = some written)
    (before : ∀ id row, written.outbox.find id = some row → lockOwnerFilter publisher row = true →
      state.outbox.find id = some row)
    (after : (state.phase publisher).isClaiming = true → ∀ id row,
      state.outbox.find id = some row → lockOwnerFilter publisher row = true →
        written.outbox.find id = some row) : SoleInvariant publisher written := by
  have phases := phase_of_write wrote
  refine ⟨fun other different => ?_, fun claimed member row stored owned => ?_,
    fun now batch claiming claimed member => ?_⟩
  · rw [phases]
    exact invariant.others other different
  · rw [phases] at member
    exact invariant.tenure claimed member row (before _ row stored owned) owned
  · rw [phases] at claiming
    obtain ⟨row, stored, owned, locked⟩ := invariant.leased now batch claiming claimed member
    exact ⟨row, after (isClaiming_of_eq claiming) _ row stored owned, owned, locked⟩

theorem SoleInvariant.environment (invariant : SoleInvariant publisher state) {time : Int}
    {action : PublisherAction Instance Payload} {write : OutboxAction Instance Payload}
    (outside : environmentWrite time action = some write)
    (wrote : state.write config write = some next) : SoleInvariant publisher next := by
  refine invariant.kept wrote (fun id row stored owned => ?_) fun _ id row stored owned => ?_
  · have publishing := ((lockOwnerFilter_iff publisher row).mp owned).2
    have change := environment_row outside wrote id
    generalize state.outbox.find id = first at change ⊢
    generalize state.history id = history at change
    generalize next.history id = later at change
    rw [stored] at change
    cases change with
    | same => rfl
    | created => exact nomatch publishing
    | redriven => exact nomatch publishing
  · have publishing := ((lockOwnerFilter_iff publisher row).mp owned).2
    have change := environment_row outside wrote id
    generalize next.outbox.find id = last at change ⊢
    generalize state.history id = history at change
    generalize next.history id = later at change
    rw [stored] at change
    cases change with
    | same => rfl
    | redriven _ _ failed => exact nomatch publishing.symm.trans failed
    | expired _ _ published => exact nomatch publishing.symm.trans published

/-- The batch does not claim a row twice: its own lease is not expired. -/
theorem SoleInvariant.claimed (invariant : SoleInvariant publisher state)
    {written : PublisherState Instance Payload} {now : Int}
    {batch : List (ClaimedEvent Instance Payload)} {event : OutboxEvent Instance Payload}
    {collection : OutboxCollection Instance Payload} {phase : Phase Instance Payload}
    (was : state.phase publisher = .claiming now batch)
    (found : claimOne (config.claimInput publisher now) state.outbox = some (event, collection))
    (wrote : state.write config (.claim publisher now) = some written) {number : Nat}
    (becomes : phase = .claiming now (batch ++ [⟨event, number⟩]) ∨ phase = .idle) :
    SoleInvariant publisher (written.setPhase publisher phase) := by
  obtain ⟨row, stored, eligible, isEvent, stores, _⟩ := write_claim_self found wrote
  have other : ∀ claimed ∈ batch, claimed.event.id ≠ event.id := by
    intro claimed member same
    obtain ⟨earlier, storedEarlier, owned, locked⟩ := invariant.leased now batch was claimed member
    rw [same, stored, Option.some_inj] at storedEarlier
    subst storedEarlier
    rcases (claimFilter_iff _ row).mp eligible with ⟨pending, _⟩ | ⟨_, lockedAt, isLocked, expired⟩
    · exact nomatch pending.symm.trans ((lockOwnerFilter_iff publisher row).mp owned).2
    · obtain rfl := Option.some.inj (isLocked.symm.trans locked)
      have positive := config.lockTimeoutMs_pos
      simp only [PublisherConfig.claimInput] at expired
      omega
  have kept : ∀ claimed ∈ batch, written.outbox.find claimed.event.id =
      state.outbox.find claimed.event.id := fun claimed member =>
    (write_claim_other found wrote (other claimed member)).1
  have attempts : row.attempts = event.attempts := (congrArg (·.attempts) isEvent).symm
  refine ⟨fun third different => ?_, fun claimed member after storedAfter owned => ?_,
    fun time claims claiming claimed member => ?_⟩
  · rw [setPhase_phase, if_neg different, phase_of_write wrote]
    exact invariant.others third different
  · rw [setPhase_phase, if_pos rfl] at member
    rcases becomes with rfl | rfl
    · rcases List.mem_append.mp member with old | new
      · refine invariant.tenure claimed ?_ after ?_ owned
        · rw [was]
          exact old
        · rw [← kept claimed old]
          exact storedAfter
      · obtain rfl := List.mem_singleton.mp new
        have same := Option.some.inj (stores.symm.trans storedAfter)
        rw [← same]
        exact attempts
    · exact absurd member List.not_mem_nil
  · rw [setPhase_phase, if_pos rfl] at claiming
    rcases becomes with rfl | rfl
    · rw [Phase.claiming.injEq] at claiming
      obtain ⟨rfl, rfl⟩ := claiming
      rcases List.mem_append.mp member with old | new
      · obtain ⟨earlier, storedEarlier, rest⟩ := invariant.leased now batch was claimed old
        exact ⟨earlier, (kept claimed old).trans storedEarlier, rest⟩
      · obtain rfl := List.mem_singleton.mp new
        refine ⟨_, stores, ?_, rfl⟩
        rw [lockOwnerFilter_iff]
        exact ⟨rfl, rfl⟩
    · exact nomatch claiming

/-- A write of the instance itself, after which it holds no more than before. -/
theorem SoleInvariant.written (invariant : SoleInvariant publisher state)
    {label : PublisherLabel Instance Payload} {written : PublisherState Instance Payload}
    {write : OutboxAction Instance Payload} {phase : Phase Instance Payload}
    (moved : publisherStep config state label = some (written.setPhase publisher phase))
    (wrote : state.write config write = some written)
    (settled : (state.phase publisher).isClaiming = false)
    (held : ∀ claimed ∈ phase.held, claimed ∈ (state.phase publisher).held)
    (leaves : phase.isClaiming = false) :
    SoleInvariant publisher (written.setPhase publisher phase) := by
  have kept := invariant.kept wrote
    (fun id row stored owned => owned_before moved settled stored owned)
    fun claiming => absurd (settled.symm.trans claiming) Bool.false_ne_true
  refine kept.setPhase (fun different => absurd rfl different)
    (fun _ claimed member => kept.tenure claimed ?_)
    fun now batch claiming => absurd (isClaiming_of_eq claiming) (Bool.eq_false_iff.mp leaves)
  rw [phase_of_write wrote]
  exact held claimed member

theorem SoleInvariant.step (invariant : SoleInvariant publisher state)
    {label : PublisherLabel Instance Payload}
    (sole : ∀ actor, label.action.publisher = some actor → actor = publisher)
    (moved : publisherStep config state label = some next) : SoleInvariant publisher next := by
  have idle : ∀ other, other ≠ publisher → next.phase other = .idle := by
    intro other different
    rcases phase_step moved other with same | step
    · rw [same]
      exact invariant.others other different
    · exact absurd (sole other step.actor) different
  have active : ∀ {other : Instance} {phase : Phase Instance Payload}, state.phase other = phase →
      phase ≠ .idle → other = publisher := by
    rintro other phase rfl acts
    exact Classical.byContradiction fun different => acts (invariant.others other different)
  obtain ⟨time, action⟩ := label
  have move := publisherStep_move moved
  cases move with
  | environment outside wrote => exact invariant.environment outside wrote
  | startRun other was =>
    refine invariant.setPhase (fun different => absurd (sole other rfl) different)
      (fun _ claimed member => absurd member List.not_mem_nil)
      fun now batch claiming claimed member => ?_
    rw [← (Phase.claiming.inj claiming).2] at member
    exact absurd member List.not_mem_nil
  | released other phase held unsent leaves =>
    refine invariant.setPhase (fun different => (if_pos rfl).symm.trans (idle other different))
      (fun same claimed member => invariant.tenure claimed ?_)
      fun now batch claiming => absurd (isClaiming_of_eq claiming) (Bool.eq_false_iff.mp leaves)
    rw [← same]
    exact held.subset member
  | claimed other now batch event collection written phase was found wrote becomes =>
    obtain rfl := active was fun same => nomatch same
    exact invariant.claimed was found wrote becomes
  | sent other outcome current rest phase was held unsent leaves =>
    obtain rfl := active was fun same => nomatch same
    have counted : SoleInvariant other (state.countSend current.event.id) :=
      ⟨invariant.others, invariant.tenure, invariant.leased⟩
    refine counted.setPhase (fun different => absurd rfl different)
      (fun _ claimed member => invariant.tenure claimed ?_)
      fun now batch claiming => absurd (isClaiming_of_eq claiming) (Bool.eq_false_iff.mp leaves)
    rw [was]
    rw [held] at member
    exact member
  | marked other current rest written phase was wrote held unsent leaves =>
    obtain rfl := active was fun same => nomatch same
    refine invariant.written moved wrote ?_ (fun claimed member => ?_) leaves
    · rw [was]
      rfl
    · rw [was]
      exact held.subset member
  | failed other current error rest random written phase acts was nonneg wrote held unsent leaves =>
    obtain rfl := active was fun same => nomatch same
    refine invariant.written moved wrote ?_ (fun claimed member => ?_) leaves
    · rw [was]
      rfl
    · rw [was]
      exact List.mem_cons_of_mem _ (held.subset member)

/-- While one instance is the only one, no failure is stale, whatever its clock shows. -/
theorem not_stale_of_sole {labels : List (PublisherLabel Instance Payload)}
    (sole : ∀ label ∈ labels, ∀ actor, label.action.publisher = some actor → actor = publisher) :
    Transition.Along (auditStep config) (fun state label => ¬ StaleFailure state.publishers label)
      .initial labels := by
  refine Transition.along_of_reached ?_
  rintro earlier label later state rfl reached
  rintro ⟨actor, current, error, rest, row, was, handles, stored, owned, stale⟩
  have before : ∀ label ∈ earlier, ∀ actor, label.action.publisher = some actor →
      actor = publisher := fun label member => sole label (List.mem_append_left _ member)
  have invariant : SoleInvariant publisher state.publishers :=
    Transition.run_invariant_along
      (fun _ _ _ invariant sole moved => SoleInvariant.step invariant sole moved)
      (.initial publisher)
      (Transition.along_of_forall (fun label member _ => before label member) _)
      (publishers_run reached)
  have same : actor = publisher := by
    refine sole label (List.mem_append_right _ List.mem_cons_self) actor ?_
    obtain ⟨_, _, _, _, _, _, acts | acts⟩ := handles
    · rw [acts]
      rfl
    · rw [acts]
      rfl
  subst same
  have held : current ∈ (state.publishers.phase actor).held := by
    rw [was]
    exact List.mem_cons_self
  exact absurd (invariant.tenure current held row stored owned) (ne_of_lt stale)

end Sole

/-! ### Whole runs -/

/-- In every run in which no `markPublished` is lost, the attempts of a row count its rejected
sends, and no row is penalized for an acknowledged one: always, as long as no failure is counted on
a stale snapshot, which is so on one clock, and with one instance whatever its clock shows. -/
theorem rejected_counted_unless_lost (config : PublisherConfig)
    (labels : List (PublisherLabel Instance Payload))
    (kept : Transition.Along (auditStep config)
      (fun state label => ¬ MarkLost state.publishers label) .initial labels)
    (fresh : Transition.Along (auditStep config)
        (fun state label => ¬ StaleFailure state.publishers label) .initial labels ∨
      labels.Pairwise (fun first second => first.time ≤ second.time) ∨
      ∃ publisher, ∀ label ∈ labels, ∀ actor, label.action.publisher = some actor →
        actor = publisher) :
    Transition.Along (auditStep config) (CountsRejected config) .initial labels := by
  have neverStale : Transition.Along (auditStep config)
      (fun state label => ¬ StaleFailure state.publishers label) .initial labels := by
    rcases fresh with fresh | ordered | ⟨publisher, sole⟩
    · exact fresh
    · exact not_stale_of_ordered ordered
    · exact not_stale_of_sole sole
  exact Transition.along_of_invariant
    (fun _ _ _ invariant meets moved => invariant.step meets.1 meets.2 moved)
    (fun _ _ invariant meets => invariant.countsRejected meets.2) AuditInvariant.initial
    (kept.and neverStale)

/-- The one attempt of a row is rejected, and the row fails. -/
theorem rejected_counted_refused :
    Transition.Along (auditStep .singleAttempt) (CountsRejected .singleAttempt) .initial
      (refusedRun ++ [⟨40003, .handlePublishFailure false 0⟩]) := by
  refine rejected_counted_unless_lost .singleAttempt _ ?_ (Or.inr (Or.inl (by decide)))
  refine Transition.along_of_forall (fun label member state => ?_) _
  rintro ⟨publisher, _, _, _, _, lost, _⟩
  simp only [refusedRun, List.cons_append, List.nil_append, List.mem_cons, List.not_mem_nil,
    or_false] at member
  rcases member with rfl | rfl | rfl | rfl | rfl | rfl
  all_goals cases lost

/-- The broker acknowledges the one attempt of a row, and `markPublished` throws before it
reaches the database. -/
def lostMarkRun : List (PublisherLabel Bool Unit) :=
  let input : CreateOutboxEventInput Unit :=
    { eventId := [], eventType := [], eventVersion := 1, topic := [], key := [], payload := (),
      nextAttemptAt := 5, createdAt := 5 }
  [⟨5, .create 7 input⟩, ⟨40000, .startRun false⟩, ⟨40000, .claim false⟩, ⟨40001, .claim false⟩,
    ⟨40002, .send false .acknowledged⟩, ⟨40003, .markPublishedFails false false (.error [])⟩]

/-- The row fails although none of its sends was rejected. -/
theorem lost_mark_counted :
    ¬ Transition.Along (auditStep .singleAttempt) (CountsRejected .singleAttempt) .initial
      (lostMarkRun ++ [⟨40004, .handlePublishFailure false 0⟩]) := by
  intro counts
  have runs : (Transition.run (auditStep .singleAttempt) .initial lostMarkRun).any (fun state =>
        decide (state.rejected 7 = 0) &&
          (state.publishers.outbox.find 7).any (fun row => decide (row.status ≠ .failed)) &&
          (publisherStep .singleAttempt state.publishers
            ⟨40004, .handlePublishFailure false 0⟩).any fun next =>
              (next.outbox.find 7).any fun row => decide (row.status = .failed)) = true := by
    decide +kernel
  obtain ⟨state, reached, fails⟩ := (Option.any_eq_true _ _).mp runs
  simp only [Bool.and_eq_true, Option.any_eq_true, decide_eq_true_eq] at fails
  obtain ⟨⟨none, before, found, live⟩, next, moved, after, stored, failed⟩ := fails
  obtain ⟨counted, _⟩ :=
    ((Transition.along_append reached).mp counts).2.1 next moved 7 after stored
  have enough := counted failed fun row isRow => by
    rw [found, Option.mem_some_iff] at isRow
    exact isRow ▸ live
  rw [none] at enough
  exact absurd enough (by decide)

end MessageManagement
