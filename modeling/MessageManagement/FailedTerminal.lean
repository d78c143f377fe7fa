/-
This file settles when a failed row is terminal.

A batch is leased at one instant and sent one event at a time, and nothing looks
at the row again before a send. An instance whose lease expired may therefore
send a snapshot of a row that another instance has moved to `failed` meanwhile.
That is the only way: as long as no row is moved to `failed` while a snapshot of
it waits in some batch, no failed row is sent, and a failed row changes by
`redriveFailed` only.
-/

import MessageManagement.Publisher

namespace MessageManagement

variable {Instance Payload : Type} [DecidableEq Instance]

/-! ### Sends and failures -/

/-- The row a step calls `publishJson` for. -/
def sends (state : PublisherState Instance Payload) :
    PublisherAction Instance Payload → Option ObjectId
  | .send publisher _ =>
    match state.phase publisher with
    | .publishing (current :: _) => some current.event.id
    | _ => none
  | _ => none

/-- The row `handlePublishFailure` of an instance is about to move to `failed`. -/
def aboutToFail (config : PublisherConfig) (state : PublisherState Instance Payload)
    (publisher : Instance) : Option ObjectId :=
  match state.phase publisher with
  | .failing current _ _ =>
    if decide (current.event.attempts + 1 ≥ config.maxAttempts) &&
        (state.outbox.find current.event.id).any (lockOwnerFilter publisher) then
      some current.event.id
    else none
  | _ => none

/-- The row a step moves to `failed`. -/
def fails (config : PublisherConfig) (state : PublisherState Instance Payload) :
    PublisherAction Instance Payload → Option ObjectId
  | .handlePublishFailure publisher _ => aboutToFail config state publisher
  | .handlePublishFailureFails publisher _ true => aboutToFail config state publisher
  | _ => none

/-- No step sends a failed row, and a failed row changes by `redriveFailed` only. -/
def FailedIsTerminal (config : PublisherConfig) (state : PublisherState Instance Payload)
    (label : PublisherLabel Instance Payload) : Prop :=
  (∀ id, sends state label.action = some id →
    ∀ row ∈ state.outbox.find id, row.status ≠ .failed) ∧
  ∀ next, publisherStep config state label = some next → ∀ id row,
    state.outbox.find id = some row → row.status = .failed →
      next.outbox.find id = some row ∨ ∃ selected, label.action = .redriveFailed selected

/-- A row is moved to `failed` only when no batch still has an unsent snapshot of it. -/
def NoneOutstanding (config : PublisherConfig) (state : PublisherState Instance Payload)
    (label : PublisherLabel Instance Payload) : Prop :=
  ∀ id, fails config state label.action = some id →
    ∀ publisher, ∀ claimed ∈ (state.phase publisher).unsent, claimed.event.id ≠ id

/-! ### The invariant -/

/-- The rows of the snapshots that wait to be sent are not failed. -/
def UnsentNotFailed (state : PublisherState Instance Payload) : Prop :=
  ∀ publisher, ∀ claimed ∈ (state.phase publisher).unsent,
    ∀ row ∈ state.outbox.find claimed.event.id, row.status ≠ .failed

theorem UnsentNotFailed.setPhase {state : PublisherState Instance Payload}
    (invariant : UnsentNotFailed state) {publisher : Instance} {phase : Phase Instance Payload}
    (unsent : ∀ claimed ∈ phase.unsent, ∀ row ∈ state.outbox.find claimed.event.id,
      row.status ≠ .failed) : UnsentNotFailed (state.setPhase publisher phase) := by
  intro other claimed member
  rw [setPhase_phase] at member
  split at member
  · exact unsent claimed member
  · exact invariant other claimed member

theorem UnsentNotFailed.written {config : PublisherConfig} {action : OutboxAction Instance Payload}
    {state next : PublisherState Instance Payload} (invariant : UnsentNotFailed state)
    (wrote : state.write config action = some next)
    (rows : ∀ id, (∀ row ∈ state.outbox.find id, row.status ≠ .failed) →
      (∃ publisher, ∃ claimed ∈ (state.phase publisher).unsent, claimed.event.id = id) →
        ∀ row ∈ next.outbox.find id, row.status ≠ .failed) : UnsentNotFailed next := by
  intro publisher claimed member
  rw [phase_of_write wrote] at member
  exact rows claimed.event.id (invariant publisher claimed member) ⟨publisher, claimed, member, rfl⟩

/-- A failed row leaves `failed` by a redrive. -/
theorem failed_of_write {config : PublisherConfig} {action : OutboxAction Instance Payload}
    {state next : PublisherState Instance Payload} (wrote : state.write config action = some next)
    {id : ObjectId} {row : OutboxEventEntity Instance Payload}
    (stored : state.outbox.find id = some row) (failed : row.status = .failed) :
    next.outbox.find id = some row ∨ ∃ selected now, action = .redriveFailed selected now := by
  have change := perform_row (write_eq_some wrote).1 id
  generalize next.outbox.find id = after at change ⊢
  rw [stored] at change
  cases change with
  | unchanged => exact Or.inl rfl
  | redriven selected now => exact Or.inr ⟨selected, now, rfl⟩
  | claimed _ _ _ _ eligible =>
    rcases (claimFilter_iff _ row).mp eligible with ⟨pending, _⟩ | ⟨publishing, _⟩
    · rw [failed] at pending
      exact OutboxEventStatus.noConfusion pending
    · rw [failed] at publishing
      exact OutboxEventStatus.noConfusion publishing
  | published _ _ _ _ owned =>
    rw [((lockOwnerFilter_iff _ row).mp owned).2] at failed
    exact OutboxEventStatus.noConfusion failed
  | failure _ _ _ _ _ _ owned =>
    rw [((lockOwnerFilter_iff _ row).mp owned).2] at failed
    exact OutboxEventStatus.noConfusion failed
  | expired _ _ _ published =>
    rw [failed] at published
    exact OutboxEventStatus.noConfusion published

section Step

variable {config : PublisherConfig} {state next : PublisherState Instance Payload} {time : Int}
  {action : PublisherAction Instance Payload}

/-- Only a redrive changes a failed row, whatever else happens. -/
theorem PublisherMove.failed_row (move : PublisherMove config state time action next)
    {id : ObjectId} {row : OutboxEventEntity Instance Payload}
    (stored : state.outbox.find id = some row) (failed : row.status = .failed) :
    next.outbox.find id = some row ∨ ∃ selected, action = .redriveFailed selected := by
  cases move with
  | environment outside wrote =>
    rcases failed_of_write wrote stored failed with same | ⟨selected, now, rfl⟩
    · exact Or.inl same
    · cases action with
      | redriveFailed chosen => exact Or.inr ⟨chosen, rfl⟩
      | create => exact nomatch Option.some.inj outside
      | expire => exact nomatch Option.some.inj outside
      | _ => exact absurd outside (Option.some_ne_none _).symm
  | startRun => exact Or.inl stored
  | released => exact Or.inl stored
  | sent => exact Or.inl stored
  | claimed _ _ _ _ _ _ _ _ _ wrote =>
    rcases failed_of_write wrote stored failed with same | ⟨_, _, impossible⟩
    · exact Or.inl same
    · exact nomatch impossible
  | marked _ _ _ _ _ _ wrote =>
    rcases failed_of_write wrote stored failed with same | ⟨_, _, impossible⟩
    · exact Or.inl same
    · exact nomatch impossible
  | failed _ _ _ _ _ _ _ _ _ _ wrote =>
    rcases failed_of_write wrote stored failed with same | ⟨_, _, impossible⟩
    · exact Or.inl same
    · exact nomatch impossible

theorem fails_of_failing {publisher : Instance} {random : ℚ}
    {current : ClaimedEvent Instance Payload} {error : ThrownValue}
    {rest : List (ClaimedEvent Instance Payload)} {row : OutboxEventEntity Instance Payload}
    (acts : action = .handlePublishFailure publisher random ∨
      action = .handlePublishFailureFails publisher random true)
    (was : state.phase publisher = .failing current error rest)
    (exhausted : current.event.attempts + 1 ≥ config.maxAttempts)
    (stored : state.outbox.find current.event.id = some row)
    (owned : lockOwnerFilter publisher row = true) :
    fails config state action = some current.event.id := by
  have about : aboutToFail config state publisher = some current.event.id := by
    simp only [aboutToFail, was, exhausted, decide_true, stored, Option.any_some, owned,
      Bool.and_self, if_true]
  rcases acts with rfl | rfl
  · exact about
  · exact about

theorem PublisherMove.unsentNotFailed (move : PublisherMove config state time action next)
    (invariant : UnsentNotFailed state) (none : NoneOutstanding config state ⟨time, action⟩) :
    UnsentNotFailed next := by
  cases move with
  | environment outside wrote =>
    refine invariant.written wrote fun id before _ => ?_
    have change := environment_row outside wrote id
    generalize state.history id = history at change
    generalize next.history id = later at change
    generalize state.outbox.find id = first at before change
    generalize next.outbox.find id = after at change ⊢
    cases change with
    | same => exact before
    | created input =>
      intro row found
      obtain rfl := Option.mem_some_iff.mp found
      exact fun failed => OutboxEventStatus.noConfusion failed
    | redriven =>
      intro row found
      obtain rfl := Option.mem_some_iff.mp found
      exact fun failed => OutboxEventStatus.noConfusion failed
    | expired => exact fun row found => absurd found (Option.not_mem_none row)
  | startRun publisher => exact invariant.setPhase fun _ member => absurd member List.not_mem_nil
  | released publisher phase held unsent =>
    exact invariant.setPhase fun claimed member =>
      invariant publisher claimed (unsent.subset member)
  | claimed publisher now batch event collection written phase was found wrote becomes =>
    obtain ⟨row, _, _, _, stores, _⟩ := write_claim_self found wrote
    have publishing : ∀ stored ∈ written.outbox.find event.id, stored.status ≠ .failed := by
      intro stored found
      rw [stores] at found
      obtain rfl := Option.mem_some_iff.mp found
      exact fun failed => OutboxEventStatus.noConfusion failed
    have after : UnsentNotFailed written := by
      refine invariant.written wrote fun id before _ => ?_
      by_cases same : id = event.id
      · rw [same]
        exact publishing
      · rw [(write_claim_other found wrote same).1]
        exact before
    refine after.setPhase fun claimed member => ?_
    rcases becomes with rfl | rfl
    · rcases List.mem_append.mp member with old | new
      · refine after publisher claimed ?_
        rw [phase_of_write wrote, was]
        exact old
      · rw [List.mem_singleton.mp new]
        exact publishing
    · exact absurd member List.not_mem_nil
  | sent publisher outcome current rest phase was held unsent =>
    refine UnsentNotFailed.setPhase invariant fun claimed member => invariant publisher claimed ?_
    rw [unsent] at member
    rw [was]
    exact List.mem_cons_of_mem _ member
  | marked publisher current rest written phase was wrote held unsent =>
    have after : UnsentNotFailed written := by
      refine invariant.written wrote fun id before _ => ?_
      obtain ⟨_, same | ⟨row, _, _, _, stores⟩⟩ := write_markPublished_row wrote id
      · rw [same]
        exact before
      · intro stored found
        rw [stores] at found
        obtain rfl := Option.mem_some_iff.mp found
        exact fun failed => OutboxEventStatus.noConfusion failed
    refine after.setPhase fun claimed member => after publisher claimed ?_
    rw [phase_of_write wrote, was]
    exact unsent.subset member
  | failed publisher current error rest random written phase acts was nonneg wrote held unsent =>
    have after : UnsentNotFailed written := by
      refine invariant.written wrote fun id before waits => ?_
      obtain ⟨_, same | ⟨row, here, stored, owned, stores⟩⟩ :=
        write_handlePublishFailure_row wrote id
      · rw [same]
        exact before
      · obtain ⟨holder, claimed, member, rfl⟩ := waits
        intro after found
        rw [stores] at found
        obtain rfl := Option.mem_some_iff.mp found
        by_cases exhausted : current.event.attempts + 1 ≥ config.maxAttempts
        · rw [here] at stored
          exact absurd here
            (none _ (fails_of_failing acts was exhausted stored owned) holder claimed member)
        · rw [failureUpdate, if_neg exhausted]
          exact fun failed => OutboxEventStatus.noConfusion failed
    refine after.setPhase fun claimed member => after publisher claimed ?_
    rw [phase_of_write wrote, was]
    exact unsent.subset member

end Step

theorem failedIsTerminal_of_unsent (config : PublisherConfig)
    (state : PublisherState Instance Payload) (label : PublisherLabel Instance Payload)
    (invariant : UnsentNotFailed state) : FailedIsTerminal config state label := by
  refine ⟨fun id sent => ?_, fun next moved id row stored failed =>
    (publisherStep_move moved).failed_row stored failed⟩
  cases action : label.action with
  | send publisher outcome =>
    rw [action, sends] at sent
    split at sent
    · rename_i current rest was
      obtain rfl := Option.some.inj sent
      refine invariant publisher current ?_
      rw [was]
      exact List.mem_cons_self
    · exact absurd sent (Option.some_ne_none id).symm
  | _ =>
    rw [action] at sent
    exact absurd sent (Option.some_ne_none id).symm

/-- In every run that fails rows only when no batch still has an unsent snapshot of them, no
failed row is sent, and a failed row changes by a redrive only. -/
theorem failed_terminal_unless_outstanding (config : PublisherConfig)
    (labels : List (PublisherLabel Instance Payload))
    (meets : Transition.Along (publisherStep config) (NoneOutstanding config) .initial labels) :
    Transition.Along (publisherStep config) (FailedIsTerminal config) .initial labels :=
  Transition.along_of_invariant
    (fun _ _ _ invariant none moved => (publisherStep_move moved).unsentNotFailed invariant none)
    (fun state label invariant _ => failedIsTerminal_of_unsent config state label invariant)
    (fun _ _ member => absurd member List.not_mem_nil) meets

/-! ### One run that is right and one that is not -/

/-- One instance claims a row, and its broker refuses the record. -/
def refusedRun : List (PublisherLabel Bool Unit) :=
  let input : CreateOutboxEventInput Unit :=
    { eventId := [], eventType := [], eventVersion := 1, topic := [], key := [], payload := (),
      nextAttemptAt := 5, createdAt := 5 }
  [⟨5, .create 7 input⟩, ⟨40000, .startRun false⟩, ⟨40000, .claim false⟩, ⟨40001, .claim false⟩,
    ⟨40002, .send false (.rejected false (.error []))⟩]

/-- The failure of a row nobody else has a snapshot of is terminal. -/
theorem failed_terminal_refused :
    Transition.Along (publisherStep .singleAttempt) (FailedIsTerminal .singleAttempt) .initial
      (refusedRun ++ [⟨40003, .handlePublishFailure false 0⟩, ⟨40004, .redriveFailed [7]⟩]) := by
  have runs : (Transition.run (publisherStep .singleAttempt) .initial refusedRun).any (fun state =>
      (state.phase true).unsent.isEmpty && (state.phase false).unsent.isEmpty) = true := by
    decide +kernel
  obtain ⟨state, reached, empty⟩ := (Option.any_eq_true _ _).mp runs
  rw [Bool.and_eq_true, List.isEmpty_iff, List.isEmpty_iff] at empty
  refine failed_terminal_unless_outstanding .singleAttempt _ ((Transition.along_append reached).mpr
    ⟨Transition.along_of_forall (fun label member state id failing => ?_) _, ?_⟩)
  · have quiet : fails .singleAttempt state label.action = none := by
      simp only [refusedRun, List.mem_cons, List.not_mem_nil, or_false] at member
      rcases member with rfl | rfl | rfl | rfl | rfl
      · rfl
      · rfl
      · rfl
      · rfl
      · rfl
    rw [quiet] at failing
    exact absurd failing (Option.some_ne_none id).symm
  · refine ⟨fun id _ publisher claimed member => ?_,
      fun next _ => ⟨fun id failing => ?_, fun _ _ => trivial⟩⟩
    · cases publisher with
      | true =>
        rw [empty.1] at member
        exact absurd member List.not_mem_nil
      | false =>
        rw [empty.2] at member
        exact absurd member List.not_mem_nil
    · exact absurd failing (Option.some_ne_none id).symm

/-- One instance claims a row and waits; its lease expires, another instance claims the row, and
its broker refuses the record. -/
def stalledRun : List (PublisherLabel Bool Unit) :=
  let input : CreateOutboxEventInput Unit :=
    { eventId := [], eventType := [], eventVersion := 1, topic := [], key := [], payload := (),
      nextAttemptAt := 5, createdAt := 5 }
  [⟨5, .create 7 input⟩, ⟨6, .startRun true⟩, ⟨6, .claim true⟩, ⟨7, .claim true⟩,
    ⟨40000, .startRun false⟩, ⟨40000, .claim false⟩, ⟨40001, .claim false⟩,
    ⟨40002, .send false (.rejected false (.error []))⟩, ⟨40003, .handlePublishFailure false 0⟩]

/-- The second instance failed the row, then the first one sends its snapshot. -/
theorem failed_row_sent :
    ¬ Transition.Along (publisherStep .singleAttempt) (FailedIsTerminal .singleAttempt) .initial
      (stalledRun ++ [⟨40004, .send true .acknowledged⟩]) := by
  intro terminal
  have runs : (Transition.run (publisherStep .singleAttempt) .initial stalledRun).any (fun state =>
        decide (sends state (.send true .acknowledged) = some 7) &&
          (state.outbox.find 7).any fun row => decide (row.status = .failed)) = true := by
    decide +kernel
  obtain ⟨state, reached, sent⟩ := (Option.any_eq_true _ _).mp runs
  rw [Bool.and_eq_true, Option.any_eq_true] at sent
  obtain ⟨sent, row, stored, failed⟩ := sent
  exact ((Transition.along_append reached).mp terminal).2.1.1 7 (of_decide_eq_true sent) row stored
    (of_decide_eq_true failed)

end MessageManagement
