/-
This file says when the readiness of the search indexer tells the truth about the
runner of its KafkaJS consumer.

One flag answers for readiness; the callbacks of the consumer write it, and KafkaJS
decides in which order they are called. A crash stops the runner before it is
reported, and a restart joins the group with a new runner of which the consumer
is not told. So the flag says whether the first runner is still there: it is right
until a restarted runner has joined, and wrong from then on until that runner crashes.
-/

import MessageManagement.Library.Text
import MessageManagement.Library.Transition

namespace MessageManagement

/-! ### The consumer -/

/-- What `MessageCreatedConsumer` keeps: whether `this.consumer` is set, and `running`. -/
structure MessageCreatedConsumer where
  hasConsumer : Bool
  running : Bool
deriving DecidableEq

namespace MessageCreatedConsumer

def initial : MessageCreatedConsumer where
  hasConsumer := false
  running := false

/-- `onModuleInit`, once the consumer is connected and subscribed. `run` is called last, and not
awaited. -/
def onModuleInit (consumer : MessageCreatedConsumer) : MessageCreatedConsumer :=
  { consumer with hasConsumer := true, running := true }

/-- The listener of `CRASH`. -/
def onCrash (restart : Bool) (consumer : MessageCreatedConsumer) : MessageCreatedConsumer :=
  if !restart then { consumer with running := false } else consumer

/-- The listener of `STOP`. -/
def onStop (consumer : MessageCreatedConsumer) : MessageCreatedConsumer :=
  { consumer with running := false }

/-- The `catch` of `run`. -/
def onRunRejected (consumer : MessageCreatedConsumer) : MessageCreatedConsumer :=
  { consumer with running := false }

def onApplicationShutdown (consumer : MessageCreatedConsumer) : MessageCreatedConsumer :=
  if !consumer.hasConsumer then consumer else { consumer with running := false }

def isRunning (consumer : MessageCreatedConsumer) : Bool := consumer.running

end MessageCreatedConsumer

def MESSAGE_CREATED_SEARCH_INDEXER_GROUP : JsString :=
  jsString "message-management-api.search-indexer"

inductive HealthIndicatorStatus
  | up
  | down
deriving DecidableEq

/-- What one indicator reports under its key. -/
structure HealthIndicatorResult where
  key : JsString
  status : HealthIndicatorStatus
  group : JsString

structure HealthCheckError where
  message : JsString
  causes : HealthIndicatorResult

/-- `consumerRunnerReady`: what it returns, or what it throws. -/
def consumerRunnerReady (consumer : MessageCreatedConsumer) :
    Except HealthCheckError HealthIndicatorResult :=
  let indicator (status : HealthIndicatorStatus) : HealthIndicatorResult :=
    { key := jsString "consumer", status, group := MESSAGE_CREATED_SEARCH_INDEXER_GROUP }
  if consumer.isRunning then .ok (indicator .up)
  else
    .error
      { message := jsString "Search indexer consumer is not running"
        causes := indicator .down }

/-! ### The runner -/

/-- The runner of the KafkaJS consumer. `again` says that it was started after a crash;
`stopped` is a crash on its way to be reported, `pending` that `run` has not settled yet. -/
inductive RunnerPhase
  | joining (again : Bool)
  | live (again : Bool)
  | stopped (pending : Bool)
  | restarting
  | ended
deriving DecidableEq

/-- What happens to a consumer after `run`. `other` are the events nobody listens to. -/
inductive ConsumerEvent
  | joined
  | stop
  | crash (restart : Bool)
  | restart
  | runRejected
  | other
deriving DecidableEq

structure ReadinessState where
  consumer : MessageCreatedConsumer
  runner : RunnerPhase
deriving DecidableEq

/-- After `onModuleInit`. -/
def ReadinessState.started : ReadinessState where
  consumer := MessageCreatedConsumer.initial.onModuleInit
  runner := .joining false

/-- One event. A crash disconnects the consumer, which stops the runner, before it is reported;
a crash with `restart` has a new runner started later. -/
def readinessStep (state : ReadinessState) : ConsumerEvent → Option ReadinessState
  | .joined =>
    match state.runner with
    | .joining again => some { state with runner := .live again }
    | _ => none
  | .stop =>
    match state.runner with
    | .joining again => some { consumer := state.consumer.onStop, runner := .stopped (!again) }
    | .live _ => some { consumer := state.consumer.onStop, runner := .stopped false }
    | _ => none
  | .crash restart =>
    match state.runner with
    | .stopped _ => some
      { consumer := state.consumer.onCrash restart
        runner := if restart then .restarting else .ended }
    | _ => none
  | .restart =>
    match state.runner with
    | .restarting => some { state with runner := .joining true }
    | _ => none
  | .runRejected =>
    -- `run` settles when its runner joins or its crash is reported; nothing rejects it later.
    match state.runner with
    | .joining false => some { consumer := state.consumer.onRunRejected, runner := .ended }
    | .stopped true => some { consumer := state.consumer.onRunRejected, runner := .ended }
    | _ => none
  | .other => some state

/-- What one event does. -/
inductive ReadinessTransition : ReadinessState → ConsumerEvent → ReadinessState → Prop
  | joined (consumer again) :
      ReadinessTransition ⟨consumer, .joining again⟩ .joined ⟨consumer, .live again⟩
  | stopJoining (consumer again) :
      ReadinessTransition ⟨consumer, .joining again⟩ .stop ⟨consumer.onStop, .stopped (!again)⟩
  | stopLive (consumer again) :
      ReadinessTransition ⟨consumer, .live again⟩ .stop ⟨consumer.onStop, .stopped false⟩
  | crashRestarting (consumer pending) :
      ReadinessTransition ⟨consumer, .stopped pending⟩ (.crash true)
        ⟨consumer.onCrash true, .restarting⟩
  | crashEnded (consumer pending) :
      ReadinessTransition ⟨consumer, .stopped pending⟩ (.crash false)
        ⟨consumer.onCrash false, .ended⟩
  | restart (consumer) :
      ReadinessTransition ⟨consumer, .restarting⟩ .restart ⟨consumer, .joining true⟩
  | rejectedJoining (consumer) :
      ReadinessTransition ⟨consumer, .joining false⟩ .runRejected ⟨consumer.onRunRejected, .ended⟩
  | rejectedStopped (consumer) :
      ReadinessTransition ⟨consumer, .stopped true⟩ .runRejected ⟨consumer.onRunRejected, .ended⟩
  | other (state) : ReadinessTransition state .other state

theorem readinessStep_eq_some {state next : ReadinessState} {event : ConsumerEvent}
    (moved : readinessStep state event = some next) : ReadinessTransition state event next := by
  obtain ⟨consumer, runner⟩ := state
  cases event with
  | joined =>
    simp only [readinessStep] at moved
    split at moved
    · obtain rfl := Option.some.inj moved
      exact .joined consumer _
    · exact absurd moved (Option.some_ne_none next).symm
  | stop =>
    simp only [readinessStep] at moved
    split at moved
    · obtain rfl := Option.some.inj moved
      exact .stopJoining consumer _
    · obtain rfl := Option.some.inj moved
      exact .stopLive consumer _
    · exact absurd moved (Option.some_ne_none next).symm
  | crash restart =>
    simp only [readinessStep] at moved
    split at moved
    · obtain rfl := Option.some.inj moved
      cases restart with
      | true => exact .crashRestarting consumer _
      | false => exact .crashEnded consumer _
    · exact absurd moved (Option.some_ne_none next).symm
  | restart =>
    simp only [readinessStep] at moved
    split at moved
    · obtain rfl := Option.some.inj moved
      exact .restart consumer
    · exact absurd moved (Option.some_ne_none next).symm
  | runRejected =>
    simp only [readinessStep] at moved
    split at moved
    · obtain rfl := Option.some.inj moved
      exact .rejectedJoining consumer
    · obtain rfl := Option.some.inj moved
      exact .rejectedStopped consumer
    · exact absurd moved (Option.some_ne_none next).symm
  | other =>
    obtain rfl := Option.some.inj moved
    exact .other _

/-! ### What the flag says -/

/-- The flag is set while the first runner joins and while it is there; the consumer is set
throughout. -/
structure ReadinessInvariant (state : ReadinessState) : Prop where
  hasConsumer : state.consumer.hasConsumer = true
  running_iff : state.consumer.isRunning = true ↔
    state.runner = .joining false ∨ state.runner = .live false

theorem ReadinessInvariant.started : ReadinessInvariant .started where
  hasConsumer := rfl
  running_iff := by decide

theorem ReadinessTransition.invariant {state next : ReadinessState} {event : ConsumerEvent}
    (moved : ReadinessTransition state event next) (invariant : ReadinessInvariant state) :
    ReadinessInvariant next := by
  obtain ⟨hasConsumer, running⟩ := invariant
  cases moved with
  | joined consumer again =>
    refine ⟨hasConsumer, running.trans ?_⟩
    simp only [RunnerPhase.joining.injEq, RunnerPhase.live.injEq, reduceCtorEq, false_or, or_false]
  | stopJoining | stopLive =>
    exact ⟨hasConsumer, by simp [MessageCreatedConsumer.onStop, MessageCreatedConsumer.isRunning]⟩
  | crashRestarting consumer pending =>
    refine ⟨hasConsumer, running.trans ?_⟩
    simp only [reduceCtorEq, or_self]
  | crashEnded consumer pending =>
    exact ⟨hasConsumer, by simp [MessageCreatedConsumer.onCrash, MessageCreatedConsumer.isRunning]⟩
  | restart consumer =>
    refine ⟨hasConsumer, running.trans ?_⟩
    simp only [RunnerPhase.joining.injEq, reduceCtorEq, or_self]
  | rejectedJoining | rejectedStopped =>
    refine ⟨hasConsumer, ?_⟩
    simp [MessageCreatedConsumer.onRunRejected, MessageCreatedConsumer.isRunning]
  | other => exact ⟨hasConsumer, running⟩

/-- In every state reached by any events. -/
theorem readiness_invariant {events : List ConsumerEvent} {state : ReadinessState}
    (reached : Transition.run readinessStep .started events = some state) :
    ReadinessInvariant state :=
  Transition.run_invariant
    (fun _ _ _ invariant moved => (readinessStep_eq_some moved).invariant invariant)
    ReadinessInvariant.started reached

/-- Readiness is up exactly while the first runner is there, whatever happened. -/
theorem consumerRunnerReady_iff {events : List ConsumerEvent} {state : ReadinessState}
    (reached : Transition.run readinessStep .started events = some state) :
    (∃ result, consumerRunnerReady state.consumer = .ok result) ↔
      state.runner = .joining false ∨ state.runner = .live false := by
  rw [← (readiness_invariant reached).running_iff, consumerRunnerReady]
  cases state.consumer.isRunning with
  | true => exact iff_of_true ⟨_, if_pos rfl⟩ rfl
  | false =>
    refine iff_of_false ?_ Bool.false_ne_true
    rintro ⟨result, ok⟩
    cases ok

/-- Shutting down ends readiness, whatever happened. -/
theorem isRunning_onApplicationShutdown {events : List ConsumerEvent} {state : ReadinessState}
    (reached : Transition.run readinessStep .started events = some state) :
    state.consumer.onApplicationShutdown.isRunning = false := by
  rw [MessageCreatedConsumer.onApplicationShutdown, (readiness_invariant reached).hasConsumer]
  rfl

/-! ### Whether the flag tells the truth -/

/-- Readiness says that a live runner is there, and no more that one is after a crash that is not
restarted. -/
structure Truthful (state : ReadinessState) : Prop where
  live : ∀ again, state.runner = .live again → state.consumer.isRunning = true
  ended : state.runner = .ended → state.consumer.isRunning = false

theorem ReadinessInvariant.truthful_iff {state : ReadinessState}
    (invariant : ReadinessInvariant state) : Truthful state ↔ state.runner ≠ .live true := by
  constructor
  · intro truthful restarted
    have running := truthful.live true restarted
    rw [invariant.running_iff, restarted] at running
    simp at running
  · intro first
    refine ⟨fun again live => ?_, fun ended => ?_⟩
    · cases again with
      | true => exact absurd live first
      | false => exact invariant.running_iff.mpr (Or.inr live)
    · rw [← Bool.not_eq_true, invariant.running_iff, ended]
      simp

/-- A runner that was started again joined the group. -/
def Rejoins (events : List ConsumerEvent) : Prop :=
  ∃ earlier later, events = earlier ++ .joined :: later ∧ .restart ∈ earlier

theorem Rejoins.append {events : List ConsumerEvent} (rejoins : Rejoins events)
    (more : List ConsumerEvent) : Rejoins (events ++ more) := by
  obtain ⟨earlier, later, rfl, restarted⟩ := rejoins
  exact ⟨earlier, later ++ more, by rw [List.append_assoc, List.cons_append], restarted⟩

/-- What the events say about the runner they lead to: it was started again when there was a
restart among them. -/
structure StartedAgain (events : List ConsumerEvent) (state : ReadinessState) : Prop where
  joining : ∀ again, state.runner = .joining again → (again = true ↔ .restart ∈ events)
  live : state.runner = .live true → Rejoins events

theorem ReadinessTransition.startedAgain {state next : ReadinessState} {event : ConsumerEvent}
    {events : List ConsumerEvent} (moved : ReadinessTransition state event next)
    (before : StartedAgain events state) : StartedAgain (events ++ [event]) next := by
  cases moved with
  | joined consumer again =>
    refine ⟨fun other joining => ?_, fun live => ?_⟩
    · cases joining
    · obtain rfl := RunnerPhase.live.inj live
      exact ⟨events, [], rfl, (before.joining true rfl).mp rfl⟩
  | stopJoining | stopLive | crashRestarting | crashEnded | rejectedJoining | rejectedStopped =>
    refine ⟨fun again joining => ?_, fun live => ?_⟩
    · cases joining
    · cases live
  | restart =>
    refine ⟨fun again joining => ?_, fun live => ?_⟩
    · obtain rfl := RunnerPhase.joining.inj joining
      exact iff_of_true rfl (List.mem_append_right events List.mem_cons_self)
    · cases live
  | other =>
    refine ⟨fun again joining => ?_, fun live => (before.live live).append [.other]⟩
    rw [List.mem_append, List.mem_singleton, before.joining again joining]
    simp only [reduceCtorEq, or_false]

theorem startedAgain_of_reached {events : List ConsumerEvent} {state : ReadinessState}
    (reached : Transition.run readinessStep .started events = some state) :
    StartedAgain events state := by
  induction events using List.reverseRecOn generalizing state with
  | nil =>
    obtain rfl := Option.some.inj reached
    refine ⟨fun again joining => ?_, fun live => ?_⟩
    · obtain rfl := RunnerPhase.joining.inj joining
      exact iff_of_false Bool.false_ne_true List.not_mem_nil
    · cases live
  | append_singleton earlier event inductionHypothesis =>
    obtain ⟨before, reachedBefore, moved⟩ := Transition.run_concat_eq_some.mp reached
    exact (readinessStep_eq_some moved).startedAgain (inductionHypothesis reachedBefore)

/-- A restarted runner that joins is there without readiness saying so. -/
theorem Rejoins.reaches {events : List ConsumerEvent} {final : ReadinessState}
    (rejoins : Rejoins events)
    (reached : Transition.run readinessStep .started events = some final) :
    ∃ earlier later state, events = earlier ++ later ∧
      Transition.run readinessStep .started earlier = some state ∧
        state.runner = .live true := by
  obtain ⟨earlier, later, rfl, restarted⟩ := rejoins
  rw [Transition.run_append] at reached
  obtain ⟨state, reachedState, rest⟩ := Option.bind_eq_some_iff.mp reached
  obtain ⟨next, moved, _⟩ := Option.bind_eq_some_iff.mp rest
  refine ⟨earlier ++ [.joined], later, next, ?_, ?_, ?_⟩
  · rw [List.append_assoc, List.singleton_append]
  · exact Transition.run_concat_eq_some.mpr ⟨state, reachedState, moved⟩
  · have counted := (startedAgain_of_reached reachedState).joining
    cases readinessStep_eq_some moved with
    | joined consumer again => rw [(counted again rfl).mpr restarted]

/-- Over any history after `onModuleInit`, readiness tells the truth in every state reached when
no runner that was started again has joined the group, and only then. -/
theorem readiness_truthful_iff (events : List ConsumerEvent) (final : ReadinessState)
    (reached : Transition.run readinessStep .started events = some final) :
    (∀ earlier later state, events = earlier ++ later →
      Transition.run readinessStep .started earlier = some state → Truthful state) ↔
        ¬ Rejoins events := by
  constructor
  · intro truthful rejoins
    obtain ⟨earlier, later, state, split, reachedState, live⟩ := rejoins.reaches reached
    have first := (readiness_invariant reachedState).truthful_iff.mp
      (truthful earlier later state split reachedState)
    exact first live
  · intro first earlier later state split reachedState
    refine (readiness_invariant reachedState).truthful_iff.mpr fun live => first ?_
    rw [split]
    exact ((startedAgain_of_reached reachedState).live live).append later

/-- A crash that is not restarted. -/
def endedHistory : List ConsumerEvent := [.joined, .other, .stop, .crash false]

theorem readiness_truthful_ended :
    ∃ state, Transition.run readinessStep .started endedHistory = some state ∧
      state.runner = .ended ∧ Truthful state := by
  have first : ¬ Rejoins endedHistory := by
    rintro ⟨earlier, later, split, restarted⟩
    have member : ConsumerEvent.restart ∈ endedHistory := by
      rw [split]
      exact List.mem_append_left _ restarted
    exact absurd member (by decide)
  refine ⟨_, rfl, rfl, ?_⟩
  exact (readiness_truthful_iff endedHistory _ rfl).mpr first endedHistory [] _ rfl rfl

/-- A crash that is restarted: the new runner is live, and readiness stays down. -/
theorem readiness_down_after_restart :
    ∃ state, Transition.run readinessStep .started
        [.joined, .stop, .crash true, .restart, .joined] = some state ∧
      state.runner = .live true ∧ state.consumer.isRunning = false ∧ ¬ Truthful state := by
  refine ⟨_, rfl, rfl, rfl, fun truthful => ?_⟩
  exact absurd (truthful.live true rfl) Bool.false_ne_true

end MessageManagement
