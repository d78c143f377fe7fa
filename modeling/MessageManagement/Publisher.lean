/-
This file models any number of outbox publisher processes working on one
`outbox_events` collection, one atomic step at a time.

An instance runs `runOnce` calls one after another: it reads the clock, claims
rows one `findOneAndUpdate` at a time, then publishes the claimed snapshots in
order, each followed by the update its outcome asks for. Any request may be
rejected, applied or not, and an instance may crash between any two steps; its
successor has another instance id. Creation, `redriveFailed` and the expiry of
published rows happen in between, at any time.

What a step writes is an operation of the lifecycle system, so everything proved
there of rows and snapshots holds here. The history counts, per row, the claims
and sends the statements about runs speak of; no step reads it.
-/

import MessageManagement.OutboxLifecycle

namespace MessageManagement

variable {Instance Payload : Type} [DecidableEq Instance]

/-! ### The state of the processes -/

/-- A snapshot an instance claimed, with the number its claim has among the claims of the
row. -/
structure ClaimedEvent (Instance Payload : Type) where
  event : OutboxEvent Instance Payload
  number : Nat

/-- Where an instance is: between runs, in the loop of `claimPublishable`, in the loop of
`runOnce` over the claimed events, in `publishEvent` after the broker acknowledged, in
`handlePublishFailure`, or gone. -/
inductive Phase (Instance Payload : Type)
  | idle
  | claiming (now : Int) (claimed : List (ClaimedEvent Instance Payload))
  | publishing (batch : List (ClaimedEvent Instance Payload))
  | marking (current : ClaimedEvent Instance Payload)
      (rest : List (ClaimedEvent Instance Payload))
  | failing (current : ClaimedEvent Instance Payload) (error : ThrownValue)
      (rest : List (ClaimedEvent Instance Payload))
  | stopped

/-- The claimed snapshots not sent yet. -/
def Phase.unsent : Phase Instance Payload → List (ClaimedEvent Instance Payload)
  | .claiming _ claimed => claimed
  | .publishing batch => batch
  | .marking _ rest => rest
  | .failing _ _ rest => rest
  | .idle => []
  | .stopped => []

/-- The claimed snapshots not done with yet. -/
def Phase.held : Phase Instance Payload → List (ClaimedEvent Instance Payload)
  | .marking current rest => current :: rest
  | .failing current _ rest => current :: rest
  | phase => phase.unsent

/-- The instance is between two runs. -/
def Phase.isIdle : Phase Instance Payload → Bool
  | .idle => true
  | _ => false

omit [DecidableEq Instance] in
theorem phase_of_isIdle {phase : Phase Instance Payload} (idle : phase.isIdle = true) :
    phase = .idle := by
  cases phase with
  | idle => rfl
  | _ => cases idle

/-- What happened to one row so far: its claims, those of them that found it publishing, and
the sends since its creation or its last redrive. -/
structure RowHistory where
  claims : Nat
  reclaims : Nat
  sends : Nat

structure PublisherState (Instance Payload : Type) where
  outbox : OutboxCollection Instance Payload
  phase : Instance → Phase Instance Payload
  history : ObjectId → RowHistory

def PublisherState.initial : PublisherState Instance Payload where
  outbox := .empty
  phase _ := .idle
  history _ := { claims := 0, reclaims := 0, sends := 0 }

/-! ### The steps -/

/-- How `producer.publishJson` ended. A rejected send may have appended the record. -/
inductive SendOutcome
  | acknowledged
  | rejected (appended : Bool) (error : ThrownValue)

def SendOutcome.isAcknowledged : SendOutcome → Bool
  | .acknowledged => true
  | .rejected _ _ => false

inductive PublisherAction (Instance Payload : Type)
  | create (id : ObjectId) (input : CreateOutboxEventInput Payload)
  | redriveFailed (selected : List ObjectId)
  | expire (id : ObjectId)
  | startRun (publisher : Instance)
  | claim (publisher : Instance)
  | claimFails (publisher : Instance) (applied : Bool)
  | send (publisher : Instance) (outcome : SendOutcome)
  | markPublished (publisher : Instance)
  | markPublishedFails (publisher : Instance) (applied : Bool) (error : ThrownValue)
  | handlePublishFailure (publisher : Instance) (random : ℚ)
  | handlePublishFailureFails (publisher : Instance) (random : ℚ) (applied : Bool)
  | finishRun (publisher : Instance)
  | crash (publisher : Instance)

/-- A step and what the clock shows when it is made. -/
structure PublisherLabel (Instance Payload : Type) where
  time : Int
  action : PublisherAction Instance Payload

/-- The history of a row after an operation on the outbox. -/
def RowHistory.afterWrite (config : PublisherConfig) (action : OutboxAction Instance Payload)
    (outbox : OutboxCollection Instance Payload) (id : ObjectId) (history : RowHistory) :
    RowHistory :=
  match action with
  | .claim lockedBy now =>
    if (claimOne (config.claimInput lockedBy now) outbox).any fun claimed => claimed.1.id = id then
      { history with
        claims := history.claims + 1
        reclaims := history.reclaims +
          if (outbox.find id).any fun row => row.status == .publishing then 1 else 0 }
    else history
  | .redriveFailed selected _ =>
    if decide (id ∈ selected) && (outbox.find id).any fun row => row.status == .failed then
      { history with sends := 0 }
    else history
  | _ => history

/-- Issue one operation on the outbox. -/
def PublisherState.write (config : PublisherConfig) (action : OutboxAction Instance Payload)
    (state : PublisherState Instance Payload) : Option (PublisherState Instance Payload) :=
  (perform config action state.outbox).map fun outbox =>
    { state with
      outbox
      history := fun id => (state.history id).afterWrite config action state.outbox id }

/-- A rejected request, applied or not. -/
def PublisherState.writeIf (applied : Bool) (config : PublisherConfig)
    (action : OutboxAction Instance Payload) (state : PublisherState Instance Payload) :
    Option (PublisherState Instance Payload) :=
  if applied then state.write config action else some state

def PublisherState.setPhase (publisher : Instance) (phase : Phase Instance Payload)
    (state : PublisherState Instance Payload) : PublisherState Instance Payload :=
  { state with phase := fun other => if other = publisher then phase else state.phase other }

/-- Count a `publishJson` call for a row. -/
def PublisherState.countSend (id : ObjectId) (state : PublisherState Instance Payload) :
    PublisherState Instance Payload :=
  { state with
    history := fun other =>
      if other = id then
        { state.history other with sends := (state.history other).sends + 1 }
      else state.history other }

omit [DecidableEq Instance] in
/-- A send claims nothing. -/
theorem countSend_claims (state : PublisherState Instance Payload) (id other : ObjectId) :
    ((state.countSend id).history other).claims = (state.history other).claims := by
  unfold PublisherState.countSend
  dsimp only
  split
  · rfl
  · rfl

/-- `Math.random` returns a number from 0 up to 1. -/
def isRandom (random : ℚ) : Bool := decide (0 ≤ random) && decide (random < 1)

theorem nonneg_of_isRandom {random : ℚ} (drawn : isRandom random = true) : 0 ≤ random := by
  rw [isRandom, Bool.and_eq_true] at drawn
  exact of_decide_eq_true drawn.1

/-- One step of the publisher system. -/
def publisherStep (config : PublisherConfig) (state : PublisherState Instance Payload)
    (label : PublisherLabel Instance Payload) : Option (PublisherState Instance Payload) :=
  match label.action with
  | .create id input => state.write config (.create id input)
  | .redriveFailed selected => state.write config (.redriveFailed selected label.time)
  | .expire id => state.write config (.expire id label.time)
  | .startRun publisher =>
    match state.phase publisher with
    | .idle => some (state.setPhase publisher (.claiming label.time []))
    | _ => none
  | .claim publisher =>
    match state.phase publisher with
    | .claiming now claimed =>
      if claimed.length < config.batchSize then
        match claimOne (config.claimInput publisher now) state.outbox with
        | none => some (state.setPhase publisher (.publishing claimed))
        | some (event, _) =>
          (state.write config (.claim publisher now)).map
            (·.setPhase publisher
              (.claiming now (claimed ++ [⟨event, (state.history event.id).claims + 1⟩])))
      else some (state.setPhase publisher (.publishing claimed))
    | _ => none
  | .claimFails publisher applied =>
    match state.phase publisher with
    | .claiming now _ =>
      (state.writeIf applied config (.claim publisher now)).map (·.setPhase publisher .idle)
    | _ => none
  | .send publisher outcome =>
    match state.phase publisher with
    | .publishing (current :: rest) =>
      some ((state.countSend current.event.id).setPhase publisher
        (match outcome with
          | .acknowledged => .marking current rest
          | .rejected _ error => .failing current error rest))
    | _ => none
  | .markPublished publisher =>
    match state.phase publisher with
    | .marking current rest =>
      (state.write config (.markPublished publisher current.event label.time)).map
        (·.setPhase publisher (.publishing rest))
    | _ => none
  | .markPublishedFails publisher applied error =>
    match state.phase publisher with
    | .marking current rest =>
      (state.writeIf applied config
        (.markPublished publisher current.event label.time)).map
          (·.setPhase publisher (.failing current error rest))
    | _ => none
  | .handlePublishFailure publisher random =>
    match state.phase publisher with
    | .failing current error rest =>
      if isRandom random then
        (state.write config
          (.handlePublishFailure publisher current.event error label.time random)).map
            (·.setPhase publisher (.publishing rest))
      else none
    | _ => none
  | .handlePublishFailureFails publisher random applied =>
    match state.phase publisher with
    | .failing current error _ =>
      if isRandom random then
        (state.writeIf applied config
          (.handlePublishFailure publisher current.event error label.time random)).map
            (·.setPhase publisher .idle)
      else none
    | _ => none
  | .finishRun publisher =>
    match state.phase publisher with
    | .publishing [] => some (state.setPhase publisher .idle)
    | _ => none
  | .crash publisher => some (state.setPhase publisher .stopped)

/-! ### What a step can do -/

/-- The operations that no publisher issues. -/
def environmentWrite (time : Int) :
    PublisherAction Instance Payload → Option (OutboxAction Instance Payload)
  | .create id input => some (.create id input)
  | .redriveFailed selected => some (.redriveFailed selected time)
  | .expire id => some (.expire id time)
  | _ => none

/-- The ways through `publisherStep`, one a constructor: what must hold of the state, what the
outbox is asked for, and where it leaves the instance. -/
inductive PublisherTransition (config : PublisherConfig) (state : PublisherState Instance Payload)
    (time : Int) :
    PublisherAction Instance Payload → PublisherState Instance Payload → Prop
  | environment {action write next} (outside : environmentWrite time action = some write)
      (wrote : state.write config write = some next) :
      PublisherTransition config state time action next
  | started {publisher} (was : state.phase publisher = .idle) :
      PublisherTransition config state time (.startRun publisher)
        (state.setPhase publisher (.claiming time []))
  | claimed {publisher now claimed event collection written}
      (was : state.phase publisher = .claiming now claimed)
      (room : claimed.length < config.batchSize)
      (found : claimOne (config.claimInput publisher now) state.outbox = some (event, collection))
      (wrote : state.write config (.claim publisher now) = some written) :
      PublisherTransition config state time (.claim publisher)
        (written.setPhase publisher
          (.claiming now (claimed ++ [⟨event, (state.history event.id).claims + 1⟩])))
  | claimsDone {publisher now claimed} (was : state.phase publisher = .claiming now claimed)
      (nothing : claimed.length < config.batchSize →
        claimOne (config.claimInput publisher now) state.outbox = none) :
      PublisherTransition config state time (.claim publisher)
        (state.setPhase publisher (.publishing claimed))
  | claimFailed {publisher applied now claimed written}
      (was : state.phase publisher = .claiming now claimed)
      (wrote : state.writeIf applied config (.claim publisher now) = some written) :
      PublisherTransition config state time (.claimFails publisher applied)
        (written.setPhase publisher .idle)
  | acknowledged {publisher current rest}
      (was : state.phase publisher = .publishing (current :: rest)) :
      PublisherTransition config state time (.send publisher .acknowledged)
        ((state.countSend current.event.id).setPhase publisher (.marking current rest))
  | rejected {publisher appended error current rest}
      (was : state.phase publisher = .publishing (current :: rest)) :
      PublisherTransition config state time (.send publisher (.rejected appended error))
        ((state.countSend current.event.id).setPhase publisher (.failing current error rest))
  | marked {publisher current rest written} (was : state.phase publisher = .marking current rest)
      (wrote : state.write config (.markPublished publisher current.event time) = some written) :
      PublisherTransition config state time (.markPublished publisher)
        (written.setPhase publisher (.publishing rest))
  | markFailed {publisher applied error current rest written}
      (was : state.phase publisher = .marking current rest)
      (wrote : state.writeIf applied config (.markPublished publisher current.event time) =
        some written) :
      PublisherTransition config state time (.markPublishedFails publisher applied error)
        (written.setPhase publisher (.failing current error rest))
  | failureHandled {publisher random current error rest written}
      (was : state.phase publisher = .failing current error rest)
      (drawn : isRandom random = true)
      (wrote : state.write config
        (.handlePublishFailure publisher current.event error time random) = some written) :
      PublisherTransition config state time (.handlePublishFailure publisher random)
        (written.setPhase publisher (.publishing rest))
  | failureFailed {publisher random applied current error rest written}
      (was : state.phase publisher = .failing current error rest)
      (drawn : isRandom random = true)
      (wrote : state.writeIf applied config
        (.handlePublishFailure publisher current.event error time random) = some written) :
      PublisherTransition config state time (.handlePublishFailureFails publisher random applied)
        (written.setPhase publisher .idle)
  | finished {publisher} (was : state.phase publisher = .publishing []) :
      PublisherTransition config state time (.finishRun publisher) (state.setPhase publisher .idle)
  | crashed (publisher) :
      PublisherTransition config state time (.crash publisher) (state.setPhase publisher .stopped)

theorem publisherStep_transition {config : PublisherConfig}
    {state next : PublisherState Instance Payload} {label : PublisherLabel Instance Payload}
    (moved : publisherStep config state label = some next) :
    PublisherTransition config state label.time label.action next := by
  obtain ⟨time, action⟩ := label
  cases action with
  | create id input => exact .environment rfl moved
  | redriveFailed selected => exact .environment rfl moved
  | expire id => exact .environment rfl moved
  | startRun publisher =>
    simp only [publisherStep] at moved
    split at moved
    · rename_i was
      exact Option.some.inj moved ▸ .started was
    · cases moved
  | claim publisher =>
    simp only [publisherStep] at moved
    split at moved
    · rename_i now claimed was
      split at moved
      · rename_i room
        split at moved
        · rename_i nothing
          exact Option.some.inj moved ▸ .claimsDone was fun _ => nothing
        · rename_i event collection found
          obtain ⟨written, wrote, rfl⟩ := Option.map_eq_some_iff.mp moved
          exact .claimed was room found wrote
      · rename_i full
        exact Option.some.inj moved ▸ .claimsDone was fun room => absurd room full
    · cases moved
  | claimFails publisher applied =>
    simp only [publisherStep] at moved
    split at moved
    · rename_i now claimed was
      obtain ⟨written, wrote, rfl⟩ := Option.map_eq_some_iff.mp moved
      exact .claimFailed was wrote
    · cases moved
  | send publisher outcome =>
    simp only [publisherStep] at moved
    split at moved
    · rename_i current rest was
      rw [← Option.some.inj moved]
      cases outcome with
      | acknowledged => exact .acknowledged was
      | rejected appended error => exact .rejected was
    · cases moved
  | markPublished publisher =>
    simp only [publisherStep] at moved
    split at moved
    · rename_i current rest was
      obtain ⟨written, wrote, rfl⟩ := Option.map_eq_some_iff.mp moved
      exact .marked was wrote
    · cases moved
  | markPublishedFails publisher applied error =>
    simp only [publisherStep] at moved
    split at moved
    · rename_i current rest was
      obtain ⟨written, wrote, rfl⟩ := Option.map_eq_some_iff.mp moved
      exact .markFailed was wrote
    · cases moved
  | handlePublishFailure publisher random =>
    simp only [publisherStep] at moved
    split at moved
    · rename_i current error rest was
      split at moved
      · rename_i drawn
        obtain ⟨written, wrote, rfl⟩ := Option.map_eq_some_iff.mp moved
        exact .failureHandled was drawn wrote
      · cases moved
    · cases moved
  | handlePublishFailureFails publisher random applied =>
    simp only [publisherStep] at moved
    split at moved
    · rename_i current error rest was
      split at moved
      · rename_i drawn
        obtain ⟨written, wrote, rfl⟩ := Option.map_eq_some_iff.mp moved
        exact .failureFailed was drawn wrote
      · cases moved
    · cases moved
  | finishRun publisher =>
    simp only [publisherStep] at moved
    split at moved
    · rename_i was
      exact Option.some.inj moved ▸ .finished was
    · cases moved
  | crash publisher =>
    rw [publisherStep, Option.some_inj] at moved
    exact moved ▸ .crashed publisher

def Phase.isClaiming : Phase Instance Payload → Bool
  | .claiming _ _ => true
  | _ => false

def Phase.isMarking : Phase Instance Payload → Bool
  | .marking _ _ => true
  | _ => false

/-- What a step does, by the one thing it does: an operation from outside, the start of a run,
a claim, a send, a transition out of a claim, or a change of phase alone, in which an instance
only lets go of snapshots. -/
inductive PublisherMove (config : PublisherConfig) (state : PublisherState Instance Payload)
    (time : Int) :
    PublisherAction Instance Payload → PublisherState Instance Payload → Prop
  | environment {action write next} (outside : environmentWrite time action = some write)
      (written : state.write config write = some next) :
      PublisherMove config state time action next
  | startRun (publisher) (was : state.phase publisher = .idle) :
      PublisherMove config state time (.startRun publisher)
        (state.setPhase publisher (.claiming time []))
  | released {action} (publisher) (phase : Phase Instance Payload)
      (held : phase.held.Sublist (state.phase publisher).held)
      (unsent : phase.unsent.Sublist (state.phase publisher).unsent)
      (leaves : phase.isClaiming = false) :
      PublisherMove config state time action (state.setPhase publisher phase)
  | claimed {action} (publisher now claimed event collection written phase)
      (was : state.phase publisher = .claiming now claimed)
      (found : claimOne (config.claimInput publisher now) state.outbox = some (event, collection))
      (wrote : state.write config (.claim publisher now) = some written)
      (becomes : phase = .claiming now
          (claimed ++ [⟨event, (state.history event.id).claims + 1⟩]) ∨ phase = .idle) :
      PublisherMove config state time action (written.setPhase publisher phase)
  | sent (publisher outcome current rest) (phase : Phase Instance Payload)
      (was : state.phase publisher = .publishing (current :: rest))
      (held : phase.held = current :: rest) (unsent : phase.unsent = rest)
      (leaves : phase.isClaiming = false) :
      PublisherMove config state time (.send publisher outcome)
        ((state.countSend current.event.id).setPhase publisher phase)
  | marked {action} (publisher current rest written) (phase : Phase Instance Payload)
      (was : state.phase publisher = .marking current rest)
      (wrote : state.write config (.markPublished publisher current.event time) = some written)
      (held : phase.held.Sublist (current :: rest)) (unsent : phase.unsent.Sublist rest)
      (leaves : phase.isClaiming = false) :
      PublisherMove config state time action (written.setPhase publisher phase)
  | failed {action} (publisher current error rest random written)
      (phase : Phase Instance Payload)
      (acts : action = .handlePublishFailure publisher random ∨
        action = .handlePublishFailureFails publisher random true)
      (was : state.phase publisher = .failing current error rest)
      (nonneg : 0 ≤ random)
      (wrote : state.write config
        (.handlePublishFailure publisher current.event error time random) = some written)
      (held : phase.held.Sublist rest) (unsent : phase.unsent.Sublist rest)
      (leaves : phase.isClaiming = false) :
      PublisherMove config state time action (written.setPhase publisher phase)

theorem write_eq_some {config : PublisherConfig} {action : OutboxAction Instance Payload}
    {state next : PublisherState Instance Payload}
    (written : state.write config action = some next) :
    perform config action state.outbox = some next.outbox ∧ next.phase = state.phase ∧
      ∀ id, next.history id = (state.history id).afterWrite config action state.outbox id := by
  obtain ⟨outbox, performed, rfl⟩ := Option.map_eq_some_iff.mp written
  exact ⟨performed, rfl, fun _ => rfl⟩

/-- A claim that finds nothing writes nothing. -/
theorem write_claim_nothing {config : PublisherConfig} {publisher : Instance} {now : Int}
    {state next : PublisherState Instance Payload}
    (nothing : claimOne (config.claimInput publisher now) state.outbox = none)
    (written : state.write config (.claim publisher now) = some next) : next = state := by
  obtain ⟨outbox, performed, rfl⟩ := Option.map_eq_some_iff.mp written
  simp only [perform, nothing, Option.some_inj] at performed
  simp only [RowHistory.afterWrite, nothing, Option.any_none, Bool.false_eq_true, if_false,
    ← performed]

/-- A step that changes nothing but the phase of one instance, which holds nothing after it. -/
theorem PublisherMove.dropped {config : PublisherConfig} {state : PublisherState Instance Payload}
    {time : Int} {action : PublisherAction Instance Payload} (publisher : Instance)
    {phase : Phase Instance Payload} (nothing : phase.held = [])
    (leaves : phase.isClaiming = false) :
    PublisherMove config state time action (state.setPhase publisher phase) := by
  refine .released publisher phase ?_ ?_ leaves
  · rw [nothing]
    exact List.nil_sublist _
  · cases phase with
    | idle => exact List.nil_sublist _
    | stopped => exact List.nil_sublist _
    | claiming now claimed => exact absurd leaves Bool.noConfusion
    | publishing batch =>
      rw [show batch = [] from nothing]
      exact List.nil_sublist _
    | marking current rest => exact absurd nothing (List.cons_ne_nil current rest)
    | failing current error rest => exact absurd nothing (List.cons_ne_nil current rest)

/-- Every step is one of the moves. -/
theorem publisherStep_move {config : PublisherConfig} {state next : PublisherState Instance Payload}
    {label : PublisherLabel Instance Payload}
    (moved : publisherStep config state label = some next) :
    PublisherMove config state label.time label.action next := by
  have transition := publisherStep_transition moved
  generalize label.time = time, label.action = action at transition ⊢
  cases transition with
  | environment outside wrote => exact .environment outside wrote
  | started was => exact .startRun _ was
  | claimed was room found wrote => exact .claimed _ _ _ _ _ _ _ was found wrote (Or.inl rfl)
  | claimsDone was nothing =>
    refine .released _ _ ?_ ?_ rfl
    · rw [was]
      exact List.Sublist.refl _
    · rw [was]
      exact List.Sublist.refl _
  | @claimFailed publisher applied now claimed written was wrote =>
    rw [PublisherState.writeIf] at wrote
    split at wrote
    · cases found : claimOne (config.claimInput publisher now) state.outbox with
      | none =>
        rw [write_claim_nothing found wrote]
        exact .dropped publisher rfl rfl
      | some taken => exact .claimed _ _ _ _ _ _ _ was found wrote (Or.inr rfl)
    · exact Option.some.inj wrote ▸ .dropped publisher rfl rfl
  | acknowledged was => exact .sent _ _ _ _ _ was rfl rfl rfl
  | rejected was => exact .sent _ _ _ _ _ was rfl rfl rfl
  | marked was wrote =>
    exact .marked _ _ _ _ _ was wrote (List.sublist_cons_self _ _) (List.Sublist.refl _) rfl
  | markFailed was wrote =>
    rw [PublisherState.writeIf] at wrote
    split at wrote
    · exact .marked _ _ _ _ _ was wrote (List.Sublist.refl _) (List.Sublist.refl _) rfl
    · rw [← Option.some.inj wrote]
      refine .released _ _ ?_ ?_ rfl
      · rw [was]
        exact List.Sublist.refl _
      · rw [was]
        exact List.Sublist.refl _
  | failureHandled was drawn wrote =>
    exact .failed _ _ _ _ _ _ _ (Or.inl rfl) was (nonneg_of_isRandom drawn) wrote
      (List.Sublist.refl _) (List.Sublist.refl _) rfl
  | failureFailed was drawn wrote =>
    rw [PublisherState.writeIf] at wrote
    split at wrote
    · rename_i reached
      subst reached
      exact .failed _ _ _ _ _ _ _ (Or.inr rfl) was (nonneg_of_isRandom drawn) wrote
        (List.nil_sublist _) (List.nil_sublist _) rfl
    · exact Option.some.inj wrote ▸ .dropped _ rfl rfl
  | finished was => exact .dropped _ rfl rfl
  | crashed publisher => exact .dropped publisher rfl rfl

/-! ### What a move does to one row -/

/-- What an operation from outside does to a row and its history; `known` says that the `_id`
was used before. -/
inductive OutsideRow (time : Int) (known : Prop) :
    Option (OutboxEventEntity Instance Payload) → RowHistory →
      Option (OutboxEventEntity Instance Payload) → RowHistory → Prop
  | same (row history) : OutsideRow time known row history row history
  | created (input : CreateOutboxEventInput Payload) (history) (fresh : ¬ known) :
      OutsideRow time known none history (some input.entity) history
  | redriven (row history) (failed : row.status = .failed) :
      OutsideRow time known (some row) history (some (redriveUpdate time row))
        { history with sends := 0 }
  | expired (row history) (published : row.status = .published) :
      OutsideRow time known (some row) history none history

theorem environment_row {config : PublisherConfig} {time : Int}
    {action : PublisherAction Instance Payload} {write : OutboxAction Instance Payload}
    {state next : PublisherState Instance Payload}
    (outside : environmentWrite time action = some write)
    (written : state.write config write = some next) (id : ObjectId) :
    OutsideRow time (id ∈ state.outbox.keys) (state.outbox.find id) (state.history id)
      (next.outbox.find id) (next.history id) := by
  obtain ⟨performed, _, history⟩ := write_eq_some written
  rw [history id]
  cases action with
  | create created input =>
    obtain rfl := Option.some.inj outside
    simp only [perform] at performed
    split at performed
    · rename_i fresh
      rw [← Option.some.inj performed, Collection.find_insert]
      by_cases same : id = created
      · subst same
        rw [if_pos rfl, Collection.find_eq_none fresh]
        exact .created input _ fresh
      · rw [if_neg same]
        exact .same _ _
    · exact absurd performed (Option.some_ne_none next.outbox).symm
  | expire expired =>
    obtain rfl := Option.some.inj outside
    have row := perform_row performed id
    generalize before : state.outbox.find id = stored at row ⊢
    generalize after : next.outbox.find id = result at row ⊢
    cases row with
    | unchanged => exact .same _ _
    | expired _ _ row published => exact .expired row _ published
  | redriveFailed selected =>
    obtain rfl := Option.some.inj outside
    rw [perform, Option.some_inj] at performed
    simp only [RowHistory.afterWrite, ← performed, redriveSelected, Collection.find_updateMany]
    cases stored : state.outbox.find id with
    | none =>
      rw [Option.any_none, Bool.and_false, if_neg Bool.false_ne_true]
      exact .same none _
    | some row =>
      rw [Option.any_some, Option.map_some]
      split
      · rename_i taken
        rw [Bool.and_eq_true, beq_iff_eq] at taken
        exact .redriven row _ taken.2
      · exact .same _ _
  | startRun => exact absurd outside (Option.some_ne_none write).symm
  | claim => exact absurd outside (Option.some_ne_none write).symm
  | claimFails => exact absurd outside (Option.some_ne_none write).symm
  | send => exact absurd outside (Option.some_ne_none write).symm
  | markPublished => exact absurd outside (Option.some_ne_none write).symm
  | markPublishedFails => exact absurd outside (Option.some_ne_none write).symm
  | handlePublishFailure => exact absurd outside (Option.some_ne_none write).symm
  | handlePublishFailureFails => exact absurd outside (Option.some_ne_none write).symm
  | finishRun => exact absurd outside (Option.some_ne_none write).symm
  | crash => exact absurd outside (Option.some_ne_none write).symm

/-- A claim that claimed a row leaves the others and their histories as they were. -/
theorem write_claim_other {config : PublisherConfig} {publisher : Instance} {now : Int}
    {state written : PublisherState Instance Payload} {event : OutboxEvent Instance Payload}
    {collection : OutboxCollection Instance Payload}
    (found : claimOne (config.claimInput publisher now) state.outbox = some (event, collection))
    (wrote : state.write config (.claim publisher now) = some written) {id : ObjectId}
    (other : id ≠ event.id) :
    written.outbox.find id = state.outbox.find id ∧ written.history id = state.history id := by
  obtain ⟨performed, _, history⟩ := write_eq_some wrote
  simp only [perform, found, Option.some_inj] at performed
  rw [history id, ← performed]
  rcases claimOne_find found id with ⟨_, same⟩ | ⟨_, same, _⟩
  · refine ⟨same, ?_⟩
    simp only [RowHistory.afterWrite, found, Option.any_some, Ne.symm other, decide_false,
      Bool.false_eq_true, if_false]
  · exact absurd same other

/-- What a claim does to the row it claims, to its history, and what it hands out. -/
theorem write_claim_self {config : PublisherConfig} {publisher : Instance} {now : Int}
    {state written : PublisherState Instance Payload} {event : OutboxEvent Instance Payload}
    {collection : OutboxCollection Instance Payload}
    (found : claimOne (config.claimInput publisher now) state.outbox = some (event, collection))
    (wrote : state.write config (.claim publisher now) = some written) :
    ∃ row, state.outbox.find event.id = some row ∧
      claimFilter (config.claimInput publisher now) row = true ∧
      event = mapOutboxEvent event.id (claimUpdate (config.claimInput publisher now) row) ∧
      written.outbox.find event.id =
        some (claimUpdate (config.claimInput publisher now) row) ∧
      written.history event.id =
        { state.history event.id with
          claims := (state.history event.id).claims + 1
          reclaims := (state.history event.id).reclaims +
            if row.status = .publishing then 1 else 0 } := by
  obtain ⟨performed, _, history⟩ := write_eq_some wrote
  simp only [perform, found, Option.some_inj] at performed
  obtain ⟨row, stored, eligible, same, _, left⟩ := claimOne_eq_some found
  refine ⟨row, stored, eligible, same, ?_, ?_⟩
  · rw [← performed, left, Collection.find_updateOne_self, stored, Option.map_some, if_pos eligible]
  · rw [history]
    simp only [RowHistory.afterWrite, found, stored, Option.any_some, decide_true, if_true,
      beq_iff_eq]

theorem write_markPublished_row {config : PublisherConfig} {publisher : Instance}
    {event : OutboxEvent Instance Payload} {time : Int}
    {state written : PublisherState Instance Payload}
    (wrote : state.write config (.markPublished publisher event time) = some written)
    (id : ObjectId) :
    written.history id = state.history id ∧
      (written.outbox.find id = state.outbox.find id ∨
        ∃ row, id = event.id ∧ state.outbox.find id = some row ∧
          lockOwnerFilter publisher row = true ∧
          written.outbox.find id = some (publishedUpdate time row)) := by
  obtain ⟨performed, _, history⟩ := write_eq_some wrote
  rw [perform, Option.some_inj] at performed
  refine ⟨history id, ?_⟩
  rw [← performed]
  exact find_updateOne_lockOwner state.outbox event.id id publisher (publishedUpdate time)

theorem write_handlePublishFailure_row {config : PublisherConfig} {publisher : Instance}
    {event : OutboxEvent Instance Payload} {error : ThrownValue} {time : Int} {random : ℚ}
    {state written : PublisherState Instance Payload}
    (wrote : state.write config (.handlePublishFailure publisher event error time random) =
      some written) (id : ObjectId) :
    written.history id = state.history id ∧
      (written.outbox.find id = state.outbox.find id ∨
        ∃ row, id = event.id ∧ state.outbox.find id = some row ∧
          lockOwnerFilter publisher row = true ∧
          written.outbox.find id =
            some (failureUpdate config publisher event error time random row)) := by
  obtain ⟨performed, _, history⟩ := write_eq_some wrote
  rw [perform, Option.some_inj, handlePublishFailure_eq] at performed
  refine ⟨history id, ?_⟩
  rw [← performed]
  exact find_updateOne_lockOwner state.outbox event.id id publisher
    (failureUpdate config publisher event error time random)

/-- An `_id` once used stays known. -/
theorem mem_keys_write {config : PublisherConfig} {action : OutboxAction Instance Payload}
    {state next : PublisherState Instance Payload}
    (written : state.write config action = some next) {id : ObjectId}
    (known : id ∈ state.outbox.keys) : id ∈ next.outbox.keys := by
  rw [keys_perform (write_eq_some written).1]
  exact List.mem_append_left _ known

/-! ### The publishers follow the lifecycle -/

theorem setPhase_phase (publisher other : Instance) (phase : Phase Instance Payload)
    (state : PublisherState Instance Payload) :
    (state.setPhase publisher phase).phase other =
      if other = publisher then phase else state.phase other := rfl

theorem phase_of_write {config : PublisherConfig} {action : OutboxAction Instance Payload}
    {state written : PublisherState Instance Payload}
    (wrote : state.write config action = some written) : written.phase = state.phase :=
  (write_eq_some wrote).2.1

/-- What an instance holds after its phase changed to one with no more snapshots. -/
theorem mem_held_setPhase {publisher other : Instance} {phase : Phase Instance Payload}
    {state : PublisherState Instance Payload} {claimed : ClaimedEvent Instance Payload}
    (fewer : phase.held ⊆ (state.phase publisher).held)
    (member : claimed ∈ ((state.setPhase publisher phase).phase other).held) :
    claimed ∈ (state.phase other).held := by
  rw [setPhase_phase] at member
  split at member
  · rename_i same
    exact same ▸ fewer member
  · exact member

/-- The lifecycle state that goes with a state of the publishers: the same collection, and
every snapshot an instance holds is one it was handed. -/
def FollowsLifecycle (state : PublisherState Instance Payload)
    (lifecycle : LifecycleState Instance Payload) : Prop :=
  lifecycle.outbox = state.outbox ∧
    ∀ publisher, ∀ claimed ∈ (state.phase publisher).held,
      claimed.event ∈ lifecycle.snapshots publisher

theorem lifecycleStep_of_write [DecidableEq Payload] {config : PublisherConfig}
    {action : OutboxAction Instance Payload} {state written : PublisherState Instance Payload}
    {lifecycle : LifecycleState Instance Payload} (follows : FollowsLifecycle state lifecycle)
    (allowed : permitted lifecycle.snapshots action = true)
    (wrote : state.write config action = some written) :
    ∃ next, Transition.run (lifecycleStep config) lifecycle [action] = some next ∧
      FollowsLifecycle written next ∧
      ∀ receiver, next.snapshots receiver =
        lifecycle.snapshots receiver ++ handedOut config action state.outbox receiver := by
  obtain ⟨performed, phases, _⟩ := write_eq_some wrote
  refine ⟨{
    outbox := written.outbox
    snapshots := fun receiver =>
      lifecycle.snapshots receiver ++ handedOut config action state.outbox receiver }, ?_,
    ⟨rfl, fun publisher claimed member => ?_⟩, fun _ => rfl⟩
  · simp only [Transition.run, Option.bind_fun_some, lifecycleStep, allowed, if_true, follows.1,
      performed, Option.map_some]
  · rw [phases] at member
    exact List.mem_append_left _ (follows.2 publisher claimed member)

theorem FollowsLifecycle.setPhase {publisher : Instance} {phase : Phase Instance Payload}
    {state : PublisherState Instance Payload} {lifecycle : LifecycleState Instance Payload}
    (follows : FollowsLifecycle state lifecycle)
    (handed : ∀ claimed ∈ phase.held, claimed.event ∈ lifecycle.snapshots publisher) :
    FollowsLifecycle (state.setPhase publisher phase) lifecycle := by
  refine ⟨follows.1, fun other claimed member => ?_⟩
  rw [setPhase_phase] at member
  split at member
  · rename_i same
    exact same ▸ handed claimed member
  · exact follows.2 other claimed member

/-- A write of a publisher that holds no more afterwards is a step of the lifecycle system. -/
theorem FollowsLifecycle.written [DecidableEq Payload] {config : PublisherConfig}
    {state written : PublisherState Instance Payload} {lifecycle : LifecycleState Instance Payload}
    {publisher : Instance} {phase : Phase Instance Payload} {write : OutboxAction Instance Payload}
    (follows : FollowsLifecycle state lifecycle)
    (allowed : permitted lifecycle.snapshots write = true)
    (wrote : state.write config write = some written)
    (held : ∀ claimed ∈ phase.held, claimed ∈ (state.phase publisher).held) :
    ∃ actions later, Transition.run (lifecycleStep config) lifecycle actions = some later ∧
      FollowsLifecycle (written.setPhase publisher phase) later := by
  obtain ⟨later, reached, followsLater, snapshots⟩ := lifecycleStep_of_write follows allowed wrote
  refine ⟨_, later, reached, followsLater.setPhase fun claimed member => ?_⟩
  rw [snapshots, List.mem_append]
  exact Or.inl (follows.2 publisher claimed (held claimed member))

/-- Every move of a publisher is some steps of the lifecycle system. -/
theorem PublisherMove.follows [DecidableEq Payload] {config : PublisherConfig}
    {state next : PublisherState Instance Payload} {time : Int}
    {action : PublisherAction Instance Payload} {lifecycle : LifecycleState Instance Payload}
    (move : PublisherMove config state time action next)
    (follows : FollowsLifecycle state lifecycle) :
    ∃ actions later, Transition.run (lifecycleStep config) lifecycle actions = some later ∧
      FollowsLifecycle next later := by
  cases move with
  | environment outside written =>
    rename_i write
    have allowed : permitted lifecycle.snapshots write = true := by
      cases action with
      | create => exact Option.some.inj outside ▸ rfl
      | redriveFailed => exact Option.some.inj outside ▸ rfl
      | expire => exact Option.some.inj outside ▸ rfl
      | _ => exact absurd outside (Option.some_ne_none write).symm
    obtain ⟨later, reached, followsLater, _⟩ := lifecycleStep_of_write follows allowed written
    exact ⟨[write], later, reached, followsLater⟩
  | startRun publisher was =>
    exact ⟨[], lifecycle, rfl, follows.setPhase fun _ member => absurd member List.not_mem_nil⟩
  | released publisher phase held unsent leaves =>
    exact ⟨[], lifecycle, rfl,
      follows.setPhase fun claimed member => follows.2 publisher claimed (held.subset member)⟩
  | claimed publisher now claimed event collection written phase was found wrote becomes =>
    obtain ⟨later, reached, followsLater, snapshots⟩ := lifecycleStep_of_write follows rfl wrote
    refine ⟨_, later, reached, followsLater.setPhase fun taken member => ?_⟩
    rw [snapshots, List.mem_append]
    rcases becomes with rfl | rfl
    · rcases List.mem_append.mp member with old | new
      · refine Or.inl (follows.2 publisher taken ?_)
        rw [was]
        exact old
      · obtain rfl := List.mem_singleton.mp new
        refine Or.inr ?_
        simp only [handedOut, if_true, found, Option.map_some, Option.toList_some,
          List.mem_singleton]
    · exact absurd member List.not_mem_nil
  | sent publisher outcome current rest phase was held unsent leaves =>
    refine ⟨[], lifecycle, rfl, FollowsLifecycle.setPhase ⟨follows.1, follows.2⟩ ?_⟩
    intro claimed member
    refine follows.2 publisher claimed ?_
    rw [held] at member
    rw [was]
    exact member
  | marked publisher current rest written phase was wrote held unsent leaves =>
    have handed : current.event ∈ lifecycle.snapshots publisher := by
      refine follows.2 publisher current ?_
      rw [was]
      exact List.mem_cons_self
    have allowed : permitted lifecycle.snapshots (.markPublished publisher current.event time) =
      true := decide_eq_true handed
    refine follows.written allowed wrote fun claimed member => ?_
    rw [was]
    exact held.subset member
  | failed publisher current error rest random written phase acts was nonneg wrote held unsent
      leaves =>
    have handed : current.event ∈ lifecycle.snapshots publisher := by
      refine follows.2 publisher current ?_
      rw [was]
      exact List.mem_cons_self
    have allowed : permitted lifecycle.snapshots
      (.handlePublishFailure publisher current.event error time random) = true :=
        decide_eq_true handed
    refine follows.written allowed wrote fun claimed member => ?_
    rw [was]
    exact List.mem_cons_of_mem _ (held.subset member)

/-- What the lifecycle says of a reachable state of the publishers. -/
structure PublisherInvariant (config : PublisherConfig) (state : PublisherState Instance Payload) :
    Prop where
  rows : ∀ id, ∀ row ∈ state.outbox.find id, RowInvariant config row
  snapshots : ∀ publisher, ∀ claimed ∈ (state.phase publisher).held,
    SnapshotInvariant config claimed.event

theorem publisher_invariant {config : PublisherConfig}
    {labels : List (PublisherLabel Instance Payload)} {state : PublisherState Instance Payload}
    (reached : Transition.run (publisherStep config) .initial labels = some state) :
    PublisherInvariant config state := by
  classical
  have initially : FollowsLifecycle (.initial : PublisherState Instance Payload) .initial :=
    ⟨rfl, fun _ _ member => absurd member List.not_mem_nil⟩
  have matched : ∀ (state : PublisherState Instance Payload)
      (label : PublisherLabel Instance Payload) (next : PublisherState Instance Payload)
      (lifecycle : LifecycleState Instance Payload), FollowsLifecycle state lifecycle →
      publisherStep config state label = some next →
      ∃ actions later, Transition.run (lifecycleStep config) lifecycle actions = some later ∧
        FollowsLifecycle next later :=
    fun _ _ _ _ follows moved => (publisherStep_move moved).follows follows
  obtain ⟨actions, lifecycle, reachedLifecycle, follows⟩ :=
    Transition.run_simulated matched initially reached
  have invariant := lifecycle_invariant reachedLifecycle
  refine ⟨fun id row stored => ?_, fun publisher claimed member => ?_⟩
  · rw [← follows.1] at stored
    exact invariant.rows id row stored
  · exact invariant.snapshots publisher claimed.event (follows.2 publisher claimed member)

/-! ### What a step leaves of rows, snapshots and sends -/

/-- The operation a step issues on the outbox, and where its instance is when it does. -/
inductive Issues (state : PublisherState Instance Payload) :
    PublisherAction Instance Payload → OutboxAction Instance Payload → Prop
  | create (id input) : Issues state (.create id input) (.create id input)
  | redriveFailed (selected now) :
      Issues state (.redriveFailed selected) (.redriveFailed selected now)
  | expire (id now) : Issues state (.expire id) (.expire id now)
  | claim {action} (publisher now claimed) (was : state.phase publisher = .claiming now claimed) :
      Issues state action (.claim publisher now)
  | markPublished {action} (publisher current rest time)
      (was : state.phase publisher = .marking current rest) :
      Issues state action (.markPublished publisher current.event time)
  | handlePublishFailure {action} (publisher current error rest time random)
      (acts : action = .handlePublishFailure publisher random ∨
        action = .handlePublishFailureFails publisher random true)
      (was : state.phase publisher = .failing current error rest) :
      Issues state action (.handlePublishFailure publisher current.event error time random)

/-- The outbox after a move is what the operation it issues left. -/
theorem PublisherMove.outbox {config : PublisherConfig}
    {state next : PublisherState Instance Payload} {time : Int}
    {action : PublisherAction Instance Payload}
    (move : PublisherMove config state time action next) :
    next.outbox = state.outbox ∨
      ∃ write, perform config write state.outbox = some next.outbox ∧
        Issues state action write := by
  cases move with
  | environment outside written =>
    refine Or.inr ⟨_, (write_eq_some written).1, ?_⟩
    cases action with
    | create id input =>
      obtain rfl := Option.some.inj outside
      exact .create id input
    | redriveFailed selected =>
      obtain rfl := Option.some.inj outside
      exact .redriveFailed selected time
    | expire id =>
      obtain rfl := Option.some.inj outside
      exact .expire id time
    | _ => exact nomatch outside
  | startRun => exact Or.inl rfl
  | released => exact Or.inl rfl
  | claimed publisher now claimed event collection written phase was found wrote becomes =>
    exact Or.inr ⟨_, (write_eq_some wrote).1, .claim publisher now claimed was⟩
  | sent => exact Or.inl rfl
  | marked publisher current rest written phase was wrote held unsent leaves =>
    exact Or.inr ⟨_, (write_eq_some wrote).1, .markPublished publisher current rest time was⟩
  | failed publisher current error rest random written phase acts was nonneg wrote held unsent
      leaves =>
    exact Or.inr ⟨_, (write_eq_some wrote).1,
      .handlePublishFailure publisher current error rest time random acts was⟩

/-- A snapshot held after a move was held before it, or announces what its row does. -/
theorem PublisherMove.held {config : PublisherConfig} {state next : PublisherState Instance Payload}
    {time : Int} {action : PublisherAction Instance Payload}
    (move : PublisherMove config state time action next) {publisher : Instance}
    {claimed : ClaimedEvent Instance Payload} (member : claimed ∈ (next.phase publisher).held) :
    claimed ∈ (state.phase publisher).held ∨
      ∃ row, state.outbox.find claimed.event.id = some row ∧
        claimed.event.announced = row.announced := by
  cases move with
  | environment outside written =>
    rw [phase_of_write written] at member
    exact Or.inl member
  | startRun other was =>
    exact Or.inl (mem_held_setPhase (List.nil_subset _) member)
  | released other phase held unsent leaves =>
    exact Or.inl (mem_held_setPhase held.subset member)
  | claimed other now earlier event collection written phase was found wrote becomes =>
    rw [setPhase_phase] at member
    split at member
    · rename_i same
      subst same
      rcases becomes with rfl | rfl
      · rcases List.mem_append.mp member with old | new
        · rw [was]
          exact Or.inl old
        · obtain ⟨row, stored, _, isEvent, _⟩ := write_claim_self found wrote
          rw [List.mem_singleton.mp new]
          refine Or.inr ⟨row, stored, ?_⟩
          dsimp only
          rw [isEvent]
          rfl
      · exact absurd member List.not_mem_nil
    · rw [phase_of_write wrote] at member
      exact Or.inl member
  | sent other outcome current rest phase was held unsent leaves =>
    refine Or.inl (mem_held_setPhase (fun snapshot isHeld => ?_) member)
    rw [held] at isHeld
    show snapshot ∈ (state.phase other).held
    rw [was]
    exact isHeld
  | marked other current rest written phase was wrote held unsent leaves =>
    have kept := mem_held_setPhase (fun snapshot isHeld => by
      rw [phase_of_write wrote, was]
      exact held.subset isHeld) member
    rw [phase_of_write wrote] at kept
    exact Or.inl kept
  | failed other current error rest random written phase acts was nonneg wrote held unsent leaves =>
    have kept := mem_held_setPhase (fun snapshot isHeld => by
      rw [phase_of_write wrote, was]
      exact List.mem_cons_of_mem _ (held.subset isHeld)) member
    rw [phase_of_write wrote] at kept
    exact Or.inl kept

/-- What a step of an instance does to its phase. -/
inductive PhaseStep (publisher : Instance) (time : Int) :
    PublisherAction Instance Payload → Phase Instance Payload → Phase Instance Payload → Prop
  | startRun : PhaseStep publisher time (.startRun publisher) .idle (.claiming time [])
  | claims (now claimed event) :
      PhaseStep publisher time (.claim publisher) (.claiming now claimed)
        (.claiming now (claimed ++ [event]))
  | claimed (now claimed) :
      PhaseStep publisher time (.claim publisher) (.claiming now claimed) (.publishing claimed)
  | claimFails (applied now claimed) :
      PhaseStep publisher time (.claimFails publisher applied) (.claiming now claimed) .idle
  | acknowledged (current rest) :
      PhaseStep publisher time (.send publisher .acknowledged) (.publishing (current :: rest))
        (.marking current rest)
  | rejected (appended error current rest) :
      PhaseStep publisher time (.send publisher (.rejected appended error))
        (.publishing (current :: rest)) (.failing current error rest)
  | markPublished (current rest) :
      PhaseStep publisher time (.markPublished publisher) (.marking current rest)
        (.publishing rest)
  | markPublishedFails (applied error current rest) :
      PhaseStep publisher time (.markPublishedFails publisher applied error)
        (.marking current rest) (.failing current error rest)
  | handlePublishFailure (random current error rest) :
      PhaseStep publisher time (.handlePublishFailure publisher random)
        (.failing current error rest) (.publishing rest)
  | handlePublishFailureFails (random applied current error rest) :
      PhaseStep publisher time (.handlePublishFailureFails publisher random applied)
        (.failing current error rest) .idle
  | finishRun : PhaseStep publisher time (.finishRun publisher) (.publishing []) .idle
  | crash (phase) : PhaseStep publisher time (.crash publisher) phase .stopped

theorem phase_of_writeIf {config : PublisherConfig} {write : OutboxAction Instance Payload}
    {applied : Bool} {state written : PublisherState Instance Payload}
    (wrote : state.writeIf applied config write = some written) : written.phase = state.phase := by
  rw [PublisherState.writeIf] at wrote
  split at wrote
  · exact phase_of_write wrote
  · exact Option.some.inj wrote ▸ rfl

/-- Setting the phase of one instance leaves those of the others. -/
theorem phaseStep_setPhase {state written : PublisherState Instance Payload}
    {publisher other : Instance} {time : Int} {action : PublisherAction Instance Payload}
    {before phase : Phase Instance Payload} (phases : written.phase = state.phase)
    (was : state.phase other = before) (step : PhaseStep other time action before phase) :
    (written.setPhase other phase).phase publisher = state.phase publisher ∨
      PhaseStep publisher time action (state.phase publisher)
        ((written.setPhase other phase).phase publisher) := by
  rw [setPhase_phase]
  by_cases same : publisher = other
  · subst same
    rw [if_pos rfl, was]
    exact Or.inr step
  · rw [if_neg same, phases]
    exact Or.inl rfl

/-- A step changes the phase of the instance it is a step of, and no other. -/
theorem phase_step {config : PublisherConfig} {state next : PublisherState Instance Payload}
    {label : PublisherLabel Instance Payload}
    (moved : publisherStep config state label = some next) (publisher : Instance) :
    next.phase publisher = state.phase publisher ∨
      PhaseStep publisher label.time label.action (state.phase publisher)
        (next.phase publisher) := by
  have transition := publisherStep_transition moved
  generalize label.time = time, label.action = action at transition ⊢
  cases transition with
  | environment outside wrote =>
    rw [phase_of_write wrote]
    exact Or.inl rfl
  | started was => exact phaseStep_setPhase rfl was .startRun
  | claimed was room found wrote =>
    exact phaseStep_setPhase (phase_of_write wrote) was (.claims _ _ _)
  | claimsDone was nothing => exact phaseStep_setPhase rfl was (.claimed _ _)
  | claimFailed was wrote =>
    exact phaseStep_setPhase (phase_of_writeIf wrote) was (.claimFails _ _ _)
  | @acknowledged _ current rest was =>
    have counted : (state.countSend current.event.id).phase = state.phase := rfl
    exact phaseStep_setPhase counted was (.acknowledged current rest)
  | @rejected _ appended error current rest was =>
    have counted : (state.countSend current.event.id).phase = state.phase := rfl
    exact phaseStep_setPhase counted was (.rejected appended error current rest)
  | marked was wrote =>
    exact phaseStep_setPhase (phase_of_write wrote) was (.markPublished _ _)
  | markFailed was wrote =>
    exact phaseStep_setPhase (phase_of_writeIf wrote) was (.markPublishedFails _ _ _ _)
  | failureHandled was drawn wrote =>
    exact phaseStep_setPhase (phase_of_write wrote) was (.handlePublishFailure _ _ _ _)
  | failureFailed was drawn wrote =>
    exact phaseStep_setPhase (phase_of_writeIf wrote) was (.handlePublishFailureFails _ _ _ _ _)
  | finished was => exact phaseStep_setPhase rfl was .finishRun
  | crashed other => exact phaseStep_setPhase rfl rfl (.crash _)

/-- An instance marks an event only after its send was acknowledged. -/
theorem marking_step {config : PublisherConfig} {state next : PublisherState Instance Payload}
    {label : PublisherLabel Instance Payload}
    (moved : publisherStep config state label = some next) {publisher : Instance}
    {current : ClaimedEvent Instance Payload} {rest : List (ClaimedEvent Instance Payload)}
    (marks : next.phase publisher = .marking current rest) :
    state.phase publisher = .marking current rest ∨
      state.phase publisher = .publishing (current :: rest) ∧
        label.action = .send publisher .acknowledged := by
  rcases phase_step moved publisher with same | step
  · exact Or.inl (same.symm.trans marks)
  · rw [marks] at step
    generalize state.phase publisher = before at step ⊢
    generalize label.action = action at step ⊢
    cases step with
    | acknowledged => exact Or.inr ⟨rfl, rfl⟩

/-- An instance handles a failure after its send was rejected, or after marking threw. -/
theorem failing_step {config : PublisherConfig} {state next : PublisherState Instance Payload}
    {label : PublisherLabel Instance Payload}
    (moved : publisherStep config state label = some next) {publisher : Instance}
    {current : ClaimedEvent Instance Payload} {error : ThrownValue}
    {rest : List (ClaimedEvent Instance Payload)}
    (fails : next.phase publisher = .failing current error rest) :
    state.phase publisher = .failing current error rest ∨
      state.phase publisher = .publishing (current :: rest) ∧
        (∃ appended, label.action = .send publisher (.rejected appended error)) ∨
      state.phase publisher = .marking current rest ∧
        ∃ applied, label.action = .markPublishedFails publisher applied error := by
  rcases phase_step moved publisher with same | step
  · exact Or.inl (same.symm.trans fails)
  · rw [fails] at step
    generalize state.phase publisher = before at step ⊢
    generalize label.action = action at step ⊢
    cases step with
    | rejected appended => exact Or.inr (Or.inl ⟨rfl, appended, rfl⟩)
    | markPublishedFails applied => exact Or.inr (Or.inr ⟨rfl, applied, rfl⟩)

end MessageManagement
