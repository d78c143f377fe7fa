/-
This file proves that the lock-owner-safe filter is safe without a fencing token.

The filter compares the owner and the status of a row, not the claim: an
instance that claimed a row twice could act on the older snapshot. That is
excluded by the clock. While an instance works on one batch, whatever took a row
of the batch away from it left the row with a lease or a next attempt after the
`now` of that batch, so the batch cannot claim it again; and a later batch starts
only after the older snapshots are gone.
-/

import MessageManagement.Publisher

namespace MessageManagement

variable {Instance Payload : Type} [DecidableEq Instance]

/-! ### The lease of a batch -/

/-- What the clock keeps true of a row claimed with `now`: it is still under that claim, or
whatever took it away happened later and put off its next claim beyond `now`. -/
def LeasedSince (publisher : Instance) (now clock : Int)
    (row : OutboxEventEntity Instance Payload) : Prop :=
  (row.status = .publishing ∧ row.lockedBy = some publisher ∧ row.lockedAt = some now) ∨
    (now < clock ∧ (row.status = .pending → now < row.nextAttemptAt) ∧
      ∀ lockedAt ∈ row.lockedAt, now < lockedAt)

section Lease

variable {publisher : Instance} {now clock later : Int}
  {row : OutboxEventEntity Instance Payload}

omit [DecidableEq Instance] in
theorem LeasedSince.mono (leased : LeasedSince publisher now clock row) (passed : clock ≤ later) :
    LeasedSince publisher now later row := by
  rcases leased with held | ⟨before, rest⟩
  · exact Or.inl held
  · exact Or.inr ⟨lt_of_lt_of_le before passed, rest⟩

omit [DecidableEq Instance] in
/-- A claim by another batch comes later and leaves a later lease. -/
theorem LeasedSince.claimed {input : ClaimPublishableOutboxEventsInput Instance}
    (timeout : 0 < input.lockTimeoutMs) (leased : LeasedSince publisher now clock row)
    (eligible : claimFilter input row = true) (started : input.now ≤ clock) :
    now < input.now ∧ LeasedSince publisher now clock (claimUpdate input row) := by
  have before : now < input.now := by
    rcases (claimFilter_iff input row).mp eligible with
      ⟨pending, due⟩ | ⟨publishing, lockedAt, locked, expired⟩
    · rcases leased with ⟨publishing, _⟩ | ⟨_, after, _⟩
      · rw [pending] at publishing
        exact OutboxEventStatus.noConfusion publishing
      · exact lt_of_lt_of_le (after pending) due
    · rcases leased with ⟨_, _, held⟩ | ⟨_, _, after⟩
      · rw [locked, Option.some_inj] at held
        omega
      · have := after lockedAt locked
        omega
  refine ⟨before, Or.inr ⟨lt_of_lt_of_le before started, fun pending => ?_,
    fun lockedAt locked => ?_⟩⟩
  · exact OutboxEventStatus.noConfusion pending
  · obtain rfl := Option.mem_some_iff.mp locked
    exact before

/-- The owner of a row that is not the batch's instance got it after the batch started. -/
theorem LeasedSince.of_other {other : Instance} (leased : LeasedSince publisher now clock row)
    (different : other ≠ publisher) (owned : lockOwnerFilter other row = true) : now < clock := by
  rcases leased with ⟨_, held, _⟩ | ⟨before, _⟩
  · rw [((lockOwnerFilter_iff other row).mp owned).1, Option.some_inj] at held
    exact absurd held different
  · exact before

theorem LeasedSince.published {other : Instance} (leased : LeasedSince publisher now clock row)
    (different : other ≠ publisher) (owned : lockOwnerFilter other row = true)
    (publishedAt : Int) : LeasedSince publisher now clock (publishedUpdate publishedAt row) := by
  refine Or.inr ⟨leased.of_other different owned, fun pending => ?_, fun lockedAt locked => ?_⟩
  · exact OutboxEventStatus.noConfusion pending
  · exact absurd locked (Option.not_mem_none lockedAt)

theorem LeasedSince.failed {config : PublisherConfig} {other : Instance}
    {event : OutboxEvent Instance Payload} {error : ThrownValue} {time : Int} {random : ℚ}
    (leased : LeasedSince publisher now clock row) (different : other ≠ publisher)
    (owned : lockOwnerFilter other row = true) (passed : clock ≤ time) (nonneg : 0 ≤ random) :
    LeasedSince publisher now clock (failureUpdate config other event error time random row) := by
  have before := leased.of_other different owned
  have delay := calculateRetryDelayMs_nonneg (event.attempts + 1) nonneg
  rw [failureUpdate]
  split
  · refine Or.inr ⟨before, fun pending => ?_, fun lockedAt locked => ?_⟩
    · exact OutboxEventStatus.noConfusion pending
    · exact absurd locked (Option.not_mem_none lockedAt)
  · refine Or.inr ⟨before, fun _ => ?_, fun lockedAt locked => ?_⟩
    · show now < time + calculateRetryDelayMs (event.attempts + 1) random
      omega
    · exact absurd locked (Option.not_mem_none lockedAt)

omit [DecidableEq Instance] in
theorem LeasedSince.redriven (leased : LeasedSince publisher now clock row)
    (failed : row.status = .failed) {time : Int} (passed : clock ≤ time) :
    LeasedSince publisher now clock (redriveUpdate time row) := by
  rcases leased with ⟨publishing, _⟩ | ⟨before, _⟩
  · rw [failed] at publishing
    exact OutboxEventStatus.noConfusion publishing
  · refine Or.inr ⟨before, fun _ => lt_of_lt_of_le before passed, fun lockedAt locked => ?_⟩
    exact absurd locked (Option.not_mem_none lockedAt)

end Lease

/-! ### The invariant -/

/-- If an instance owns the row of a snapshot it holds, the row is still under the claim that
took the snapshot. -/
def Tenure (state : PublisherState Instance Payload) (publisher : Instance)
    (claimed : ClaimedEvent Instance Payload) : Prop :=
  ∀ row ∈ state.outbox.find claimed.event.id, lockOwnerFilter publisher row = true →
    (state.history claimed.event.id).claims = claimed.number ∧
      row.attempts = claimed.event.attempts

structure LeaseInvariant (clock : Int) (state : PublisherState Instance Payload) : Prop where
  tenure : ∀ publisher, ∀ claimed ∈ (state.phase publisher).held, Tenure state publisher claimed
  started : ∀ publisher now batch, state.phase publisher = .claiming now batch → now ≤ clock
  known : ∀ publisher now batch, state.phase publisher = .claiming now batch →
    ∀ claimed ∈ batch, claimed.event.id ∈ state.outbox.keys
  leased : ∀ publisher now batch, state.phase publisher = .claiming now batch →
    ∀ claimed ∈ batch, ∀ row ∈ state.outbox.find claimed.event.id,
      LeasedSince publisher now clock row

theorem LeaseInvariant.initial (clock : Int) :
    LeaseInvariant clock (.initial : PublisherState Instance Payload) where
  tenure _ _ member := absurd member List.not_mem_nil
  started _ _ _ phase := nomatch phase
  known _ _ _ phase := nomatch phase
  leased _ _ _ phase := nomatch phase

theorem LeaseInvariant.mono {clock later : Int} {state : PublisherState Instance Payload}
    (invariant : LeaseInvariant clock state) (passed : clock ≤ later) :
    LeaseInvariant later state where
  tenure := invariant.tenure
  started publisher now batch phase := le_trans (invariant.started publisher now batch phase) passed
  known := invariant.known
  leased publisher now batch phase claimed member row stored :=
    (invariant.leased publisher now batch phase claimed member row stored).mono passed

omit [DecidableEq Instance] in
theorem isClaiming_of_eq {phase : Phase Instance Payload} {now : Int}
    {batch : List (ClaimedEvent Instance Payload)} (same : phase = .claiming now batch) :
    phase.isClaiming = true := by
  rw [same]
  rfl

/-- Leaving the loop of a claim, or letting go of snapshots. -/
theorem LeaseInvariant.setPhase {clock : Int} {state : PublisherState Instance Payload}
    (invariant : LeaseInvariant clock state) {publisher : Instance}
    {phase : Phase Instance Payload}
    (tenure : ∀ claimed ∈ phase.held, Tenure state publisher claimed)
    (leaves : phase.isClaiming = false) :
    LeaseInvariant clock (state.setPhase publisher phase) := by
  have unmoved : ∀ other now batch, (state.setPhase publisher phase).phase other =
      .claiming now batch → state.phase other = .claiming now batch := by
    intro other now batch claiming
    rw [setPhase_phase] at claiming
    split at claiming
    · rw [isClaiming_of_eq claiming] at leaves
      exact absurd leaves Bool.noConfusion
    · exact claiming
  refine ⟨fun other claimed member => ?_,
    fun other now batch claiming => invariant.started other now batch (unmoved _ _ _ claiming),
    fun other now batch claiming => invariant.known other now batch (unmoved _ _ _ claiming),
    fun other now batch claiming => invariant.leased other now batch (unmoved _ _ _ claiming)⟩
  rw [setPhase_phase] at member
  split at member
  · rename_i same
    exact same ▸ tenure claimed member
  · exact invariant.tenure other claimed member

/-! ### One step -/

theorem Tenure.of_row {state next : PublisherState Instance Payload} {publisher : Instance}
    {claimed : ClaimedEvent Instance Payload} (tenure : Tenure state publisher claimed)
    (row : next.outbox.find claimed.event.id = state.outbox.find claimed.event.id)
    (claims : (next.history claimed.event.id).claims =
      (state.history claimed.event.id).claims) : Tenure next publisher claimed := by
  intro stored found owned
  rw [claims]
  rw [row] at found
  exact tenure stored found owned

/-- A row that is not publishing has no owner. -/
theorem Tenure.of_not_publishing {state : PublisherState Instance Payload} {publisher : Instance}
    {claimed : ClaimedEvent Instance Payload}
    (left : ∀ row ∈ state.outbox.find claimed.event.id, row.status ≠ .publishing) :
    Tenure state publisher claimed := by
  intro row stored owned
  exact absurd ((lockOwnerFilter_iff publisher row).mp owned).2 (left row stored)

omit [DecidableEq Instance] in
theorem failureUpdate_status (config : PublisherConfig) (lockedBy : Instance)
    (event : OutboxEvent Instance Payload) (error : ThrownValue) (now : Int) (random : ℚ)
    (row : OutboxEventEntity Instance Payload) :
    (failureUpdate config lockedBy event error now random row).status ≠ .publishing := by
  rw [failureUpdate]
  split
  · exact fun publishing => OutboxEventStatus.noConfusion publishing
  · exact fun publishing => OutboxEventStatus.noConfusion publishing

section Step

variable {config : PublisherConfig} {state next written : PublisherState Instance Payload}
  {clock time : Int} {publisher : Instance}

theorem LeaseInvariant.environment {action : PublisherAction Instance Payload}
    {write : OutboxAction Instance Payload} (invariant : LeaseInvariant clock state)
    (passed : clock ≤ time) (outside : environmentWrite time action = some write)
    (wrote : state.write config write = some next) : LeaseInvariant time next := by
  have phases := phase_of_write wrote
  refine ⟨fun publisher claimed member => ?_, fun publisher now batch claiming => ?_,
    fun publisher now batch claiming claimed member => ?_,
    fun publisher now batch claiming claimed member row stored => ?_⟩
  · rw [phases] at member
    have tenure := invariant.tenure publisher claimed member
    intro row stored owned
    have change := environment_row outside wrote claimed.event.id
    generalize before : state.outbox.find claimed.event.id = first at change
    generalize historyBefore : state.history claimed.event.id = history at change
    generalize historyAfter : next.history claimed.event.id = later at change ⊢
    rw [Option.mem_def.mp stored] at change
    cases change with
    | same =>
      rw [← historyBefore]
      exact tenure row before owned
    | created input =>
      exact absurd ((lockOwnerFilter_iff publisher _).mp owned).2 OutboxEventStatus.noConfusion
    | redriven =>
      exact absurd ((lockOwnerFilter_iff publisher _).mp owned).2 OutboxEventStatus.noConfusion
  · rw [phases] at claiming
    exact le_trans (invariant.started publisher now batch claiming) passed
  · rw [phases] at claiming
    exact mem_keys_write wrote (invariant.known publisher now batch claiming claimed member)
  · rw [phases] at claiming
    have known := invariant.known publisher now batch claiming claimed member
    have leased := invariant.leased publisher now batch claiming claimed member
    have change := environment_row outside wrote claimed.event.id
    generalize before : state.outbox.find claimed.event.id = first at change
    generalize state.history claimed.event.id = history at change
    generalize next.history claimed.event.id = later at change
    rw [Option.mem_def.mp stored] at change
    cases change with
    | same => exact (leased row before).mono passed
    | created _ _ fresh => exact absurd known fresh
    | redriven row _ failed => exact ((leased row before).redriven failed passed).mono passed

/-- The rows of a batch are not claimable by the batch itself. -/
theorem LeaseInvariant.ne_of_claimed (invariant : LeaseInvariant clock state) {now : Int}
    {batch : List (ClaimedEvent Instance Payload)}
    (claiming : state.phase publisher = .claiming now batch)
    {claimed : ClaimedEvent Instance Payload} (member : claimed ∈ batch)
    {event : OutboxEvent Instance Payload} {collection : OutboxCollection Instance Payload}
    (found : claimOne (config.claimInput publisher now) state.outbox = some (event, collection)) :
    claimed.event.id ≠ event.id := by
  intro same
  obtain ⟨row, stored, eligible, _, _, _⟩ := claimOne_eq_some found
  rw [← same] at stored
  have leased := invariant.leased publisher now batch claiming claimed member row stored
  have later := (leased.claimed config.lockTimeoutMs_pos eligible
    (invariant.started publisher now batch claiming)).1
  exact lt_irrefl now later

theorem LeaseInvariant.written_claim (invariant : LeaseInvariant clock state) {now : Int}
    {batch : List (ClaimedEvent Instance Payload)}
    (claiming : state.phase publisher = .claiming now batch)
    {event : OutboxEvent Instance Payload} {collection : OutboxCollection Instance Payload}
    (found : claimOne (config.claimInput publisher now) state.outbox = some (event, collection))
    (wrote : state.write config (.claim publisher now) = some written) :
    LeaseInvariant clock written := by
  have phases := phase_of_write wrote
  obtain ⟨row, stored, eligible, _, stores, _⟩ := write_claim_self found wrote
  refine ⟨fun other claimed member => ?_, fun other started batch claims => ?_,
    fun other started batch claims claimed member => ?_,
    fun other started batch claims claimed member after storedAfter => ?_⟩
  · rw [phases] at member
    by_cases same : claimed.event.id = event.id
    · intro after storedAfter owned
      rw [same, stores] at storedAfter
      obtain rfl := Option.mem_some_iff.mp storedAfter
      have owner : publisher = other :=
        Option.some.inj ((lockOwnerFilter_iff other _).mp owned).1
      subst owner
      rw [claiming] at member
      exact absurd same (invariant.ne_of_claimed claiming member found)
    · obtain ⟨unchanged, history⟩ := write_claim_other found wrote same
      exact (invariant.tenure other claimed member).of_row unchanged (by rw [history])
  · rw [phases] at claims
    exact invariant.started other started batch claims
  · rw [phases] at claims
    exact mem_keys_write wrote (invariant.known other started batch claims claimed member)
  · rw [phases] at claims
    have leased := invariant.leased other started batch claims claimed member
    by_cases same : claimed.event.id = event.id
    · rw [same, stores] at storedAfter
      obtain rfl := Option.mem_some_iff.mp storedAfter
      rw [same] at leased
      exact ((leased row stored).claimed config.lockTimeoutMs_pos eligible
        (invariant.started publisher now _ claiming)).2
    · rw [(write_claim_other found wrote same).1] at storedAfter
      exact leased after storedAfter

theorem LeaseInvariant.claimed (invariant : LeaseInvariant clock state) {now : Int}
    {batch : List (ClaimedEvent Instance Payload)} {phase : Phase Instance Payload}
    (claiming : state.phase publisher = .claiming now batch)
    {event : OutboxEvent Instance Payload} {collection : OutboxCollection Instance Payload}
    (found : claimOne (config.claimInput publisher now) state.outbox = some (event, collection))
    (wrote : state.write config (.claim publisher now) = some written)
    (becomes : phase = .claiming now
      (batch ++ [⟨event, (state.history event.id).claims + 1⟩]) ∨ phase = .idle) :
    LeaseInvariant clock (written.setPhase publisher phase) := by
  have after := invariant.written_claim claiming found wrote
  have phases := phase_of_write wrote
  rcases becomes with rfl | rfl
  · obtain ⟨row, _, _, handed, stores, history⟩ := write_claim_self found wrote
    have claimingAfter : written.phase publisher = .claiming now batch := by rw [phases, claiming]
    have fresh : Tenure written publisher ⟨event, (state.history event.id).claims + 1⟩ := by
      intro stored found _
      rw [stores] at found
      obtain rfl := Option.mem_some_iff.mp found
      refine ⟨by rw [history], ?_⟩
      show _ = event.attempts
      rw [handed]
      rfl
    have members : ∀ other started taken, (written.setPhase publisher (.claiming now
        (batch ++ [⟨event, (state.history event.id).claims + 1⟩]))).phase other =
          .claiming started taken →
        ∃ old, written.phase other = .claiming started old ∧
          ∀ claimed ∈ taken, claimed ∈ old ∨ other = publisher ∧ started = now ∧
            claimed = ⟨event, (state.history event.id).claims + 1⟩ := by
      intro other started taken same
      rw [setPhase_phase] at same
      split at same
      · rename_i self
        subst self
        obtain ⟨rfl, rfl⟩ := Phase.claiming.inj same
        refine ⟨batch, claimingAfter, fun claimed member => ?_⟩
        rcases List.mem_append.mp member with old | new
        · exact Or.inl old
        · exact Or.inr ⟨rfl, rfl, List.mem_singleton.mp new⟩
      · exact ⟨taken, same, fun claimed member => Or.inl member⟩
    refine ⟨fun other claimed member => ?_, fun other started taken same => ?_,
      fun other started taken same claimed member => ?_,
      fun other started taken same claimed member stored found => ?_⟩
    · rw [setPhase_phase] at member
      split at member
      · rename_i self
        subst self
        rcases List.mem_append.mp member with old | new
        · refine after.tenure other claimed ?_
          rw [claimingAfter]
          exact old
        · obtain rfl := List.mem_singleton.mp new
          exact fresh
      · exact after.tenure other claimed member
    · obtain ⟨old, was, _⟩ := members other started taken same
      exact after.started other started old was
    · obtain ⟨old, was, split⟩ := members other started taken same
      rcases split claimed member with kept | ⟨_, _, rfl⟩
      · exact after.known other started old was claimed kept
      · exact Collection.mem_keys_of_find stores
    · obtain ⟨old, was, split⟩ := members other started taken same
      rcases split claimed member with kept | ⟨rfl, rfl, rfl⟩
      · exact after.leased other started old was claimed kept stored found
      · have found : stored ∈ written.outbox.find event.id := found
        rw [stores] at found
        obtain rfl := Option.mem_some_iff.mp found
        exact Or.inl ⟨rfl, rfl, rfl⟩
  · exact after.setPhase (fun _ member => absurd member List.not_mem_nil) rfl

/-- A lock-owner-safe transition by an instance that is not claiming. -/
theorem LeaseInvariant.written_transition {action : OutboxAction Instance Payload}
    (invariant : LeaseInvariant clock state) (passed : clock ≤ time)
    (leaves : (state.phase publisher).isClaiming = false)
    (wrote : state.write config action = some written)
    (rows : ∀ id, written.history id = state.history id ∧
      (written.outbox.find id = state.outbox.find id ∨
        ∃ row after, state.outbox.find id = some row ∧ written.outbox.find id = some after ∧
          after.status ≠ .publishing ∧
          ∀ other now, publisher ≠ other → LeasedSince other now clock row →
            LeasedSince other now clock after)) :
    LeaseInvariant time written := by
  have phases := phase_of_write wrote
  refine ⟨fun other claimed member => ?_, fun other started batch claiming => ?_,
    fun other started batch claiming claimed member => ?_,
    fun other started batch claiming claimed member stored found => ?_⟩
  · rw [phases] at member
    obtain ⟨history, same | ⟨row, after, _, stores, left, _⟩⟩ := rows claimed.event.id
    · exact (invariant.tenure other claimed member).of_row same (by rw [history])
    · refine Tenure.of_not_publishing fun stored found => ?_
      rw [stores] at found
      exact Option.mem_some_iff.mp found ▸ left
  · rw [phases] at claiming
    exact le_trans (invariant.started other started batch claiming) passed
  · rw [phases] at claiming
    exact mem_keys_write wrote (invariant.known other started batch claiming claimed member)
  · rw [phases] at claiming
    have leased := invariant.leased other started batch claiming claimed member
    obtain ⟨_, same | ⟨row, after, stored, stores, _, keeps⟩⟩ := rows claimed.event.id
    · rw [same] at found
      exact (leased _ found).mono passed
    · rw [stores] at found
      obtain rfl := Option.mem_some_iff.mp found
      have different : publisher ≠ other := by
        intro same
        rw [same, isClaiming_of_eq claiming] at leaves
        exact absurd leaves Bool.noConfusion
      exact (keeps other started different (leased row stored)).mono passed

/-- Every step keeps the lease invariant while the clock does not go back. -/
theorem PublisherMove.lease {action : PublisherAction Instance Payload}
    (move : PublisherMove config state time action next) (invariant : LeaseInvariant clock state)
    (passed : clock ≤ time) : LeaseInvariant time next := by
  cases move with
  | environment outside written => exact invariant.environment passed outside written
  | startRun publisher was =>
    have later := invariant.mono passed
    have claiming : ∀ other now batch,
        (state.setPhase publisher (.claiming time [])).phase other = .claiming now batch →
        state.phase other = .claiming now batch ∨ now = time ∧ batch = [] := by
      intro other now batch same
      rw [setPhase_phase] at same
      split at same
      · obtain ⟨rfl, rfl⟩ := Phase.claiming.inj same
        exact Or.inr ⟨rfl, rfl⟩
      · exact Or.inl same
    refine ⟨fun other claimed member => ?_, fun other now batch same => ?_,
      fun other now batch same claimed member => ?_,
      fun other now batch same claimed member => ?_⟩
    · rw [setPhase_phase] at member
      split at member
      · exact absurd member List.not_mem_nil
      · exact later.tenure other claimed member
    · rcases claiming other now batch same with was | ⟨rfl, _⟩
      · exact later.started other now batch was
      · exact le_refl _
    · rcases claiming other now batch same with was | ⟨_, rfl⟩
      · exact later.known other now batch was claimed member
      · exact absurd member List.not_mem_nil
    · rcases claiming other now batch same with was | ⟨_, rfl⟩
      · exact later.leased other now batch was claimed member
      · exact absurd member List.not_mem_nil
  | released publisher phase held unsent leaves =>
    refine (invariant.mono passed).setPhase (fun claimed member => ?_) leaves
    exact invariant.tenure publisher claimed (held.subset member)
  | claimed publisher now batch event collection written phase was found wrote becomes =>
    exact (invariant.claimed was found wrote becomes).mono passed
  | sent publisher outcome current rest phase was held unsent leaves =>
    have later := invariant.mono passed
    have tenure : ∀ other, ∀ claimed ∈ (state.phase other).held,
        Tenure (state.countSend current.event.id) other claimed := by
      intro other claimed member
      exact (later.tenure other claimed member).of_row rfl (countSend_claims state _ _)
    have counted : LeaseInvariant time (state.countSend current.event.id) :=
      ⟨tenure, later.started, later.known, later.leased⟩
    refine counted.setPhase (fun claimed member => tenure publisher claimed ?_) leaves
    rw [held] at member
    rw [was]
    exact member
  | marked publisher current rest written phase was wrote held unsent leaves =>
    have after : LeaseInvariant time written := by
      refine invariant.written_transition passed (show (state.phase publisher).isClaiming = false by
        rw [was]; rfl) wrote fun id => ?_
      obtain ⟨history, same | ⟨row, _, stored, owned, stores⟩⟩ := write_markPublished_row wrote id
      · exact ⟨history, Or.inl same⟩
      · refine ⟨history, Or.inr ⟨row, _, stored, stores, fun publishing => ?_,
          fun other now different leased => leased.published different owned time⟩⟩
        exact OutboxEventStatus.noConfusion publishing
    refine after.setPhase (fun claimed member => after.tenure publisher claimed ?_) leaves
    rw [phase_of_write wrote, was]
    exact held.subset member
  | failed publisher current error rest random written phase acts was nonneg wrote held unsent
      leaves =>
    have after : LeaseInvariant time written := by
      refine invariant.written_transition passed (show (state.phase publisher).isClaiming = false by
        rw [was]; rfl) wrote fun id => ?_
      obtain ⟨history, same | ⟨row, _, stored, owned, stores⟩⟩ :=
        write_handlePublishFailure_row wrote id
      · exact ⟨history, Or.inl same⟩
      · exact ⟨history, Or.inr ⟨row, _, stored, stores, failureUpdate_status _ _ _ _ _ _ row,
          fun other now different leased => leased.failed different owned passed nonneg⟩⟩
    refine after.setPhase (fun claimed member => after.tenure publisher claimed ?_) leaves
    rw [phase_of_write wrote, was]
    exact List.mem_cons_of_mem _ (held.subset member)

end Step

/-! ### Safety of the filter -/

/-- No claim of the row happened after the one that took the snapshot, and the row still has
the attempts the snapshot has. -/
def UnderClaim (state : PublisherState Instance Payload)
    (claimed : ClaimedEvent Instance Payload) : Prop :=
  (state.history claimed.event.id).claims = claimed.number ∧
    ∃ row, state.outbox.find claimed.event.id = some row ∧
      row.attempts = claimed.event.attempts

theorem lease_invariant {config : PublisherConfig}
    {labels : List (PublisherLabel Instance Payload)} {state : PublisherState Instance Payload}
    (ordered : labels.Pairwise fun first second => first.time ≤ second.time)
    (reached : Transition.run (publisherStep config) .initial labels = some state) :
    ∃ clock, LeaseInvariant clock state := by
  obtain ⟨clock, _, invariant⟩ := Transition.run_invariant_clock
    (fun _ _ _ _ invariant passed moved => (publisherStep_move moved).lease invariant passed)
    LeaseInvariant.initial ordered reached
  exact ⟨clock, invariant⟩

/-- A lock-owner-safe update of the row of a held snapshot. -/
theorem updateOne_underClaim {clock : Int} {state : PublisherState Instance Payload}
    (invariant : LeaseInvariant clock state) {publisher : Instance}
    {claimed : ClaimedEvent Instance Payload} (member : claimed ∈ (state.phase publisher).held)
    {update : OutboxEventEntity Instance Payload → OutboxEventEntity Instance Payload}
    (matched : (state.outbox.updateOne claimed.event.id (lockOwnerFilter publisher) update).1 =
      true) :
    UnderClaim state claimed ∧ ∃ row, state.outbox.find claimed.event.id = some row ∧
      row.attempts = claimed.event.attempts ∧
      (state.outbox.updateOne claimed.event.id (lockOwnerFilter publisher) update).2.find
        claimed.event.id = some (update row) := by
  obtain ⟨row, stored, owned⟩ := (Collection.updateOne_matched _ _ _ _).mp matched
  obtain ⟨claims, attempts⟩ := invariant.tenure publisher claimed member row stored owned
  refine ⟨⟨claims, row, stored, attempts⟩, row, stored, attempts, ?_⟩
  rw [Collection.find_updateOne_self, stored, Option.map_some, if_pos owned]

omit [DecidableEq Instance] in
theorem failureUpdate_attempts (config : PublisherConfig) (lockedBy : Instance)
    (event : OutboxEvent Instance Payload) (error : ThrownValue) (now : Int) (random : ℚ)
    (row : OutboxEventEntity Instance Payload) :
    (failureUpdate config lockedBy event error now random row).attempts = event.attempts + 1 := by
  rw [failureUpdate]
  split
  · rfl
  · rfl

/-- In every run read by one clock: a transition out of a claim that matched acted on the
latest claim of the row and on its current attempts, so that a failure counts exactly one more;
one that did not match changed nothing. -/
theorem lock_owner_safe (config : PublisherConfig)
    (labels : List (PublisherLabel Instance Payload)) (state : PublisherState Instance Payload)
    (ordered : labels.Pairwise fun first second => first.time ≤ second.time)
    (reached : Transition.run (publisherStep config) .initial labels = some state)
    (publisher : Instance) :
    (∀ claimed rest publishedAt, state.phase publisher = .marking claimed rest →
      let result := markPublished
        { id := claimed.event.id, lockedBy := publisher, publishedAt } state.outbox
      (result.1 = true → UnderClaim state claimed) ∧
      (result.1 = false → ∀ id, result.2.find id = state.outbox.find id)) ∧
    (∀ claimed error rest now random, state.phase publisher = .failing claimed error rest →
      let result := handlePublishFailure config publisher claimed.event error now random
        state.outbox
      (result.1 = true → UnderClaim state claimed ∧
        ∃ before after, state.outbox.find claimed.event.id = some before ∧
          result.2.find claimed.event.id = some after ∧ after.attempts = before.attempts + 1) ∧
      (result.1 = false → ∀ id, result.2.find id = state.outbox.find id)) := by
  obtain ⟨clock, invariant⟩ := lease_invariant ordered reached
  refine ⟨fun claimed rest publishedAt marking => ?_,
    fun claimed error rest now random failing => ?_⟩
  · have member : claimed ∈ (state.phase publisher).held := by
      rw [marking]
      exact List.mem_cons_self
    refine ⟨fun matched => (updateOne_underClaim invariant member matched).1,
      fun unmatched id => ?_⟩
    exact Collection.find_updateOne_of_unmatched state.outbox _ unmatched id
  · have member : claimed ∈ (state.phase publisher).held := by
      rw [failing]
      exact List.mem_cons_self
    rw [handlePublishFailure_eq]
    refine ⟨fun matched => ?_, fun unmatched id => ?_⟩
    · obtain ⟨current, row, stored, attempts, stores⟩ :=
        updateOne_underClaim invariant member matched
      refine ⟨current, row, _, stored, stores, ?_⟩
      rw [failureUpdate_attempts, attempts]
    · exact Collection.find_updateOne_of_unmatched state.outbox _ unmatched id

/-- One instance claims a row and loses its lease to another one before it marks the row. -/
def reclaimedRun : List (PublisherLabel Bool Unit) :=
  let input : CreateOutboxEventInput Unit :=
    { eventId := [], eventType := [], eventVersion := 1, topic := [], key := [], payload := (),
      nextAttemptAt := 5, createdAt := 5 }
  [⟨5, .create 7 input⟩, ⟨6, .startRun true⟩, ⟨6, .claim true⟩, ⟨7, .claim true⟩,
    ⟨8, .send true .acknowledged⟩, ⟨40000, .startRun false⟩, ⟨40001, .claim false⟩]

theorem lock_owner_safe_reclaimed :
    ∃ state, Transition.run (publisherStep .default) .initial reclaimedRun = some state ∧
      ∃ claimed rest, state.phase true = .marking claimed rest ∧
        ((markPublished { id := claimed.event.id, lockedBy := true, publishedAt := 40002 }
          state.outbox).1 = false →
          ∀ id, (markPublished { id := claimed.event.id, lockedBy := true, publishedAt := 40002 }
            state.outbox).2.find id = state.outbox.find id) := by
  have runs : (Transition.run (publisherStep .default) .initial reclaimedRun).any (fun state =>
      (state.phase true).isMarking) = true := by
    decide +kernel
  obtain ⟨state, reached, phase⟩ := (Option.any_eq_true _ _).mp runs
  refine ⟨state, reached, ?_⟩
  cases marking : state.phase true with
  | marking claimed rest =>
    exact ⟨claimed, rest, rfl, ((lock_owner_safe .default reclaimedRun state (by decide) reached
      true).1 claimed rest 40002 marking).2⟩
  | _ =>
    rw [marking] at phase
    exact absurd phase Bool.noConfusion

end MessageManagement
