/-
This file models the polling loop of a publisher process, from `onModuleInit` to
`onApplicationShutdown`, around the runs of the publisher system.

The flag `running` and the one timer the service keeps in a field let at most one
`runOnce` be under way, so the publisher system may take it that the runs of an
instance follow each other. A run that throws arms the next timer like any other,
so the loop goes on until it is shut down; from then on nothing starts, and a
shutdown that waited for the last run leaves no row locked, unless a request that
was to release rows, or to claim them, was rejected.
-/

import MessageManagement.Library.Timers
import MessageManagement.LockOwner

namespace MessageManagement

variable {Instance Payload : Type}

/-! ### The service and its timers -/

/-- What a timer of the process calls: `runLoop`, or the end of a `delay` of
`onApplicationShutdown`. -/
inductive LoopCallback
  | runLoop
  | delay
deriving DecidableEq

/-- The fields of a `PublisherService` that its loop reads, and the timers of its process.
`initialized` and `resolved` say that `onModuleInit` was called and that
`onApplicationShutdown` resolved; no method reads them. -/
structure PublisherLoop where
  running : Bool
  stopping : Bool
  timer : Option Nat
  timers : Timers LoopCallback
  initialized : Bool
  resolved : Bool

namespace PublisherLoop

def created : PublisherLoop where
  running := false
  stopping := false
  timer := none
  timers := .empty
  initialized := false
  resolved := false

def scheduleNextRun (loop : PublisherLoop) : PublisherLoop :=
  if loop.stopping then loop
  else
    { loop with timer := some loop.timers.next, timers := loop.timers.setTimeout .runLoop }

def onModuleInit (loop : PublisherLoop) : PublisherLoop :=
  { loop.scheduleNextRun with initialized := true }

/-- `runLoop` up to its `await`, and whether it starts a run. -/
def runLoop (loop : PublisherLoop) : Bool × PublisherLoop :=
  if loop.running then (false, loop.scheduleNextRun) else (true, { loop with running := true })

/-- The `finally` block of `runLoop`. -/
def runEnded (loop : PublisherLoop) : PublisherLoop :=
  scheduleNextRun { loop with running := false }

/-- One test of the `while` loop of `onApplicationShutdown`. -/
def awaitRun (loop : PublisherLoop) : PublisherLoop :=
  if loop.running then { loop with timers := loop.timers.setTimeout .delay }
  else { loop with resolved := true }

def onApplicationShutdown (loop : PublisherLoop) : PublisherLoop :=
  awaitRun { loop with stopping := true, timers := loop.timers.clearHeld loop.timer }

/-- A timer fires: it is not armed any more when its callback is called. -/
def fired (timer : Nat) (loop : PublisherLoop) : PublisherLoop :=
  { loop with timers := loop.timers.clearTimeout timer }

end PublisherLoop

/-! ### The loops around the publishers -/

/-- `loops` has the service of each process that did not crash. -/
structure LoopedState (Instance Payload : Type) where
  publishers : PublisherState Instance Payload
  loops : Instance → Option PublisherLoop

def LoopedState.initial : LoopedState Instance Payload where
  publishers := .initial
  loops _ := some .created

/-- `request` is a step of a run, or one that no publisher takes; runs start when a timer fires
and end with `runEnded`. -/
inductive LoopedAction (Instance Payload : Type)
  | onModuleInit (publisher : Instance)
  | fire (publisher : Instance) (timer : Nat)
  | request (action : PublisherAction Instance Payload)
  | runEnded (publisher : Instance)
  | onApplicationShutdown (publisher : Instance)
  | crash (publisher : Instance)

/-- A step and what the clock shows when it is made. -/
structure LoopedLabel (Instance Payload : Type) where
  time : Int
  action : LoopedAction Instance Payload

/-- The step is neither the start of a run nor the end of a process. -/
def PublisherAction.isRequest : PublisherAction Instance Payload → Bool
  | .startRun _ => false
  | .crash _ => false
  | _ => true

variable [DecidableEq Instance]

def LoopedState.setLoop (publisher : Instance) (loop : Option PublisherLoop)
    (state : LoopedState Instance Payload) : LoopedState Instance Payload :=
  { state with loops := Function.update state.loops publisher loop }

/-- The next step of the publisher system. -/
def LoopedState.publish (config : PublisherConfig) (time : Int)
    (action : PublisherAction Instance Payload) (state : LoopedState Instance Payload) :
    Option (LoopedState Instance Payload) :=
  (publisherStep config state.publishers ⟨time, action⟩).map fun publishers =>
    { state with publishers }

/-- One step of the processes. Once `runOnce` has let go of its batch, `updatePendingMetrics` is
all that comes before the `finally` block, and whether it rejects makes no difference. -/
def loopedStep (config : PublisherConfig) (state : LoopedState Instance Payload)
    (label : LoopedLabel Instance Payload) : Option (LoopedState Instance Payload) :=
  match label.action with
  | .onModuleInit publisher =>
    match state.loops publisher with
    | some loop =>
      if loop.initialized then none else some (state.setLoop publisher (some loop.onModuleInit))
    | none => none
  | .fire publisher timer =>
    match state.loops publisher with
    | some loop =>
      match loop.timers.armed timer with
      | some .delay => some (state.setLoop publisher (some (loop.fired timer).awaitRun))
      | some .runLoop =>
        let (starts, loop) := (loop.fired timer).runLoop
        if starts then
          (state.setLoop publisher (some loop)).publish config label.time (.startRun publisher)
        else some (state.setLoop publisher (some loop))
      | none => none
    | none => none
  | .request action => if action.isRequest then state.publish config label.time action else none
  | .runEnded publisher =>
    match state.loops publisher with
    | some loop =>
      if loop.running && (state.publishers.phase publisher).isIdle then
        some (state.setLoop publisher (some loop.runEnded))
      else none
    | none => none
  | .onApplicationShutdown publisher =>
    match state.loops publisher with
    | some loop => some (state.setLoop publisher (some loop.onApplicationShutdown))
    | none => none
  | .crash publisher =>
    (state.setLoop publisher none).publish config label.time (.crash publisher)

/-! ### What the loop keeps -/

/-- What the fields of a service say of its timers and of its runs. -/
structure PublisherLoop.Sound (loop : PublisherLoop) (phase : Phase Instance Payload) : Prop where
  held : loop.timers.HeldBy .runLoop loop.timer
  running : loop.running = true → loop.timers.Quiet .runLoop
  stopping : loop.stopping = true → loop.timers.Quiet .runLoop
  uninitialized : loop.initialized = false →
    loop.timers.Quiet .runLoop ∧ loop.running = false
  alive : loop.initialized = true → loop.stopping = false →
    loop.running = true ∨ ∃ timer, loop.timers.armed timer = some .runLoop
  delays : ∀ timer, loop.timers.armed timer = some .delay → loop.stopping = true
  waiting : loop.stopping = true → loop.resolved = true ∨
    ∃ timer, loop.timers.armed timer = some .delay
  resolved : loop.resolved = true → loop.stopping = true ∧ loop.running = false
  idle : loop.running = false → phase = .idle

namespace PublisherLoop

variable {loop : PublisherLoop} {phase : Phase Instance Payload}

omit [DecidableEq Instance]

theorem Sound.created : PublisherLoop.created.Sound (.idle : Phase Instance Payload) where
  held := Timers.quiet_empty.heldBy none
  running := fun runs => nomatch runs
  stopping := fun stops => nomatch stops
  uninitialized _ := ⟨Timers.quiet_empty, rfl⟩
  alive := fun initialized => nomatch initialized
  delays := fun _ armed => nomatch armed
  waiting := fun stops => nomatch stops
  resolved := fun resolves => nomatch resolves
  idle _ := rfl

/-- Scheduling the next run between two runs, while no timer for one is armed. -/
theorem scheduled_sound (initialized : loop.initialized = true) (running : loop.running = false)
    (quiet : loop.timers.Quiet .runLoop)
    (delays : ∀ timer, loop.timers.armed timer = some .delay → loop.stopping = true)
    (waiting : loop.stopping = true → loop.resolved = true ∨
      ∃ timer, loop.timers.armed timer = some .delay)
    (resolved : loop.resolved = true → loop.stopping = true) :
    loop.scheduleNextRun.Sound (.idle : Phase Instance Payload) := by
  unfold scheduleNextRun
  split
  · rename_i stops
    exact {
      held := quiet.heldBy _
      running := fun _ => quiet
      stopping := fun _ => quiet
      uninitialized := fun uninitialized => absurd (initialized.symm.trans uninitialized)
        Bool.noConfusion
      alive := fun _ goes => absurd (stops.symm.trans goes) Bool.noConfusion
      delays
      waiting
      resolved := fun resolves => ⟨stops, running⟩
      idle := fun _ => rfl }
  · rename_i goes
    have differ : LoopCallback.delay ≠ .runLoop := LoopCallback.noConfusion
    exact {
      held := quiet.setTimeout
      running := fun runs => absurd (running.symm.trans runs) Bool.noConfusion
      stopping := fun stops => absurd stops goes
      uninitialized := fun uninitialized => absurd (initialized.symm.trans uninitialized)
        Bool.noConfusion
      alive := fun _ _ => Or.inr ⟨_, Timers.armed_setTimeout_next _ _⟩
      delays := fun timer armed =>
        delays timer ((Timers.armed_setTimeout_ne differ _ timer).mp armed)
      waiting := fun stops => absurd stops goes
      resolved := fun resolves => absurd (resolved resolves) goes
      idle := fun _ => rfl }

theorem Sound.onModuleInit (sound : loop.Sound phase) (uninitialized : loop.initialized = false) :
    loop.onModuleInit.Sound phase := by
  obtain ⟨quiet, running⟩ := sound.uninitialized uninitialized
  rw [sound.idle running]
  have same : loop.onModuleInit =
      PublisherLoop.scheduleNextRun { loop with initialized := true } := by
    unfold PublisherLoop.onModuleInit PublisherLoop.scheduleNextRun
    dsimp only
    split
    · rfl
    · rfl
  rw [same]
  exact scheduled_sound rfl running quiet sound.delays sound.waiting fun resolves =>
    (sound.resolved resolves).1

theorem Sound.runEnded (sound : loop.Sound phase) (running : loop.running = true) :
    loop.runEnded.Sound (.idle : Phase Instance Payload) := by
  have initialized : loop.initialized = true := by
    by_contra uninitialized
    rw [Bool.not_eq_true] at uninitialized
    exact absurd (running.symm.trans (sound.uninitialized uninitialized).2) Bool.noConfusion
  exact scheduled_sound initialized rfl (sound.running running) sound.delays sound.waiting
    fun resolves => (sound.resolved resolves).1

/-- A timer for a run fires only while the service is not running, and starts a run. -/
theorem Sound.started (sound : loop.Sound phase) {timer : Nat}
    (armed : loop.timers.armed timer = some .runLoop) :
    phase = .idle ∧ (loop.fired timer).runLoop.1 = true ∧
      ∀ later, (loop.fired timer).runLoop.2.Sound (later : Phase Instance Payload) := by
  have running : loop.running = false := by
    by_contra runs
    rw [Bool.not_eq_false] at runs
    exact sound.running runs timer armed
  have goes : loop.stopping = false := by
    by_contra stops
    rw [Bool.not_eq_false] at stops
    exact sound.stopping stops timer armed
  have initialized : loop.initialized = true := by
    by_contra uninitialized
    rw [Bool.not_eq_true] at uninitialized
    exact (sound.uninitialized uninitialized).1 timer armed
  have starts : (loop.fired timer).runLoop = (true, { loop.fired timer with running := true }) := by
    rw [runLoop, if_neg]
    rw [Bool.not_eq_true]
    exact running
  refine ⟨sound.idle running, ?_, fun later => ?_⟩
  · rw [starts]
  · rw [starts]
    exact {
      held := sound.held.clearTimeout timer
      running := fun _ => sound.held.fired armed
      stopping := fun _ => sound.held.fired armed
      uninitialized := fun uninitialized => absurd (initialized.symm.trans uninitialized)
        Bool.noConfusion
      alive := fun _ _ => Or.inl rfl
      delays := fun other isArmed => sound.delays other (Timers.armed_of_clearTimeout isArmed).2
      waiting := fun stops => absurd (goes.symm.trans stops) Bool.noConfusion
      resolved := fun resolves =>
        absurd (goes.symm.trans (sound.resolved resolves).1) Bool.noConfusion
      idle := fun stopped => nomatch stopped }

/-- A test of the loop that waits for the run, once the service is stopping. -/
theorem awaited_sound (stops : loop.stopping = true) (quiet : loop.timers.Quiet .runLoop)
    (uninitialized : loop.initialized = false → loop.running = false)
    (resolved : loop.resolved = true → loop.running = false)
    (idle : loop.running = false → phase = .idle) : loop.awaitRun.Sound phase := by
  unfold awaitRun
  split
  · have differ : LoopCallback.runLoop ≠ .delay := LoopCallback.noConfusion
    have quiet := quiet.setTimeout_ne differ
    exact {
      held := quiet.heldBy _
      running := fun _ => quiet
      stopping := fun _ => quiet
      uninitialized := fun isUninitialized => ⟨quiet, uninitialized isUninitialized⟩
      alive := fun _ goes => absurd (stops.symm.trans goes) Bool.noConfusion
      delays := fun _ _ => stops
      waiting := fun _ => Or.inr ⟨_, Timers.armed_setTimeout_next _ _⟩
      resolved := fun resolves => ⟨stops, resolved resolves⟩
      idle }
  · rename_i ended
    exact {
      held := quiet.heldBy _
      running := fun _ => quiet
      stopping := fun _ => quiet
      uninitialized := fun isUninitialized => ⟨quiet, uninitialized isUninitialized⟩
      alive := fun _ goes => absurd (stops.symm.trans goes) Bool.noConfusion
      delays := fun _ _ => stops
      waiting := fun _ => Or.inl rfl
      resolved := fun _ => ⟨stops, Bool.not_eq_true _ ▸ ended⟩
      idle }

theorem Sound.onApplicationShutdown (sound : loop.Sound phase) :
    loop.onApplicationShutdown.Sound phase := by
  refine awaited_sound rfl sound.held.clearHeld ?_ ?_ sound.idle
  · exact fun uninitialized => (sound.uninitialized uninitialized).2
  · exact fun resolves => (sound.resolved resolves).2

theorem Sound.delayed (sound : loop.Sound phase) {timer : Nat}
    (armed : loop.timers.armed timer = some .delay) : (loop.fired timer).awaitRun.Sound phase := by
  have stops := sound.delays timer armed
  refine awaited_sound stops ((sound.stopping stops).clearTimeout timer) ?_ ?_ sound.idle
  · exact fun uninitialized => (sound.uninitialized uninitialized).2
  · exact fun resolves => (sound.resolved resolves).2

/-- While a run is under way the service does not look at what the run does. -/
theorem Sound.phase_of_running (sound : loop.Sound phase) (running : loop.running = true)
    (later : Phase Instance Payload) : loop.Sound later :=
  { sound with idle := fun ended => absurd (running.symm.trans ended) Bool.noConfusion }

end PublisherLoop

/-! ### The loops around the runs -/

def LoopedState.Sound (state : LoopedState Instance Payload) : Prop :=
  ∀ publisher loop, state.loops publisher = some loop →
    loop.Sound (state.publishers.phase publisher)

theorem loops_setLoop (state : LoopedState Instance Payload) (publisher : Instance)
    (loop : Option PublisherLoop) :
    (state.setLoop publisher loop).loops = Function.update state.loops publisher loop := rfl

theorem LoopedState.Sound.setLoop {state : LoopedState Instance Payload} (sound : state.Sound)
    {publisher : Instance} {loop : Option PublisherLoop}
    (changed : ∀ service, loop = some service →
      service.Sound (state.publishers.phase publisher)) : (state.setLoop publisher loop).Sound := by
  intro other service stored
  rw [loops_setLoop] at stored
  by_cases same : other = publisher
  · rw [same, Function.update_self] at stored
    rw [same]
    exact changed service stored
  · rw [Function.update_of_ne same] at stored
    exact sound other service stored

theorem publish_eq_some {config : PublisherConfig} {time : Int}
    {action : PublisherAction Instance Payload} {state next : LoopedState Instance Payload}
    (moved : state.publish config time action = some next) :
    publisherStep config state.publishers ⟨time, action⟩ = some next.publishers ∧
      next.loops = state.loops := by
  obtain ⟨publishers, stepped, rfl⟩ := Option.map_eq_some_iff.mp moved
  exact ⟨stepped, rfl⟩

omit [DecidableEq Instance] in
/-- A request is made in a run. -/
theorem PhaseStep.busy {publisher : Instance} {time : Int}
    {action : PublisherAction Instance Payload} {before later : Phase Instance Payload}
    (step : PhaseStep publisher time action before later) (request : action.isRequest = true) :
    before ≠ .idle := by
  rintro rfl
  cases step with
  | startRun => exact absurd request Bool.noConfusion
  | crash => exact absurd request Bool.noConfusion

theorem LoopedState.Sound.requested {config : PublisherConfig} {time : Int}
    {action : PublisherAction Instance Payload} {state next : LoopedState Instance Payload}
    (sound : state.Sound) (request : action.isRequest = true)
    (moved : state.publish config time action = some next) : next.Sound := by
  obtain ⟨stepped, loops⟩ := publish_eq_some moved
  intro publisher loop stored
  rw [loops] at stored
  have loopSound := sound publisher loop stored
  rcases phase_step stepped publisher with same | step
  · rw [same]
    exact loopSound
  · refine loopSound.phase_of_running ?_ _
    by_contra ended
    rw [Bool.not_eq_true] at ended
    exact step.busy request (loopSound.idle ended)

/-- A step of the publisher system that is the start of a run or a crash. -/
theorem publish_phase_ne {config : PublisherConfig} {time : Int}
    {action : PublisherAction Instance Payload} {state next : LoopedState Instance Payload}
    (moved : state.publish config time action = some next) {publisher other : Instance}
    (acts : action = .startRun publisher ∨ action = .crash publisher)
    (different : other ≠ publisher) :
    next.publishers.phase other = state.publishers.phase other := by
  have stepped := (publish_eq_some moved).1
  rcases phase_step stepped other with same | step
  · exact same
  · rcases acts with rfl | rfl
    · generalize state.publishers.phase other = before at step ⊢
      generalize next.publishers.phase other = later at step ⊢
      cases step with
      | startRun => exact absurd rfl different
    · generalize state.publishers.phase other = before at step ⊢
      generalize next.publishers.phase other = later at step ⊢
      cases step with
      | crash => exact absurd rfl different

theorem LoopedState.Sound.published {config : PublisherConfig} {time : Int}
    {action : PublisherAction Instance Payload} {state next : LoopedState Instance Payload}
    {publisher : Instance} {loop : Option PublisherLoop} (sound : state.Sound)
    (acts : action = .startRun publisher ∨ action = .crash publisher)
    (changed : ∀ service, loop = some service →
      ∀ later, service.Sound (later : Phase Instance Payload))
    (moved : (state.setLoop publisher loop).publish config time action = some next) :
    next.Sound := by
  intro other service stored
  rw [(publish_eq_some moved).2, loops_setLoop] at stored
  by_cases same : other = publisher
  · rw [same, Function.update_self] at stored
    exact changed service stored _
  · rw [Function.update_of_ne same] at stored
    rw [publish_phase_ne moved acts same]
    exact sound other service stored

/-- Every step keeps every loop sound. -/
theorem loopedStep_sound {config : PublisherConfig} {state next : LoopedState Instance Payload}
    {label : LoopedLabel Instance Payload} (sound : state.Sound)
    (moved : loopedStep config state label = some next) : next.Sound := by
  obtain ⟨time, action⟩ := label
  cases action with
  | onModuleInit publisher =>
    simp only [loopedStep] at moved
    split at moved
    · rename_i loop stored
      split at moved
      · exact nomatch moved
      · rename_i uninitialized
        rw [← Option.some.inj moved]
        refine sound.setLoop fun service isService => ?_
        rw [← Option.some.inj isService]
        exact (sound publisher loop stored).onModuleInit (Bool.not_eq_true _ ▸ uninitialized)
    · exact nomatch moved
  | fire publisher timer =>
    simp only [loopedStep] at moved
    split at moved
    · rename_i loop stored
      have loopSound := sound publisher loop stored
      split at moved
      · rename_i armed
        rw [← Option.some.inj moved]
        refine sound.setLoop fun service isService => ?_
        rw [← Option.some.inj isService]
        exact loopSound.delayed armed
      · rename_i armed
        obtain ⟨_, starts, kept⟩ := loopSound.started armed
        rw [if_pos starts] at moved
        refine sound.published (Or.inl rfl) (fun service isService later => ?_) moved
        rw [← Option.some.inj isService]
        exact kept later
      · exact nomatch moved
    · exact nomatch moved
  | request action =>
    simp only [loopedStep] at moved
    split at moved
    · rename_i request
      exact sound.requested request moved
    · exact nomatch moved
  | runEnded publisher =>
    simp only [loopedStep] at moved
    split at moved
    · rename_i loop stored
      split at moved
      · rename_i ended
        rw [Bool.and_eq_true] at ended
        rw [← Option.some.inj moved]
        refine sound.setLoop fun service isService => ?_
        rw [← Option.some.inj isService, phase_of_isIdle ended.2]
        exact (sound publisher loop stored).runEnded ended.1
      · exact nomatch moved
    · exact nomatch moved
  | onApplicationShutdown publisher =>
    simp only [loopedStep] at moved
    split at moved
    · rename_i loop stored
      rw [← Option.some.inj moved]
      refine sound.setLoop fun service isService => ?_
      rw [← Option.some.inj isService]
      exact (sound publisher loop stored).onApplicationShutdown
    · exact nomatch moved
  | crash publisher =>
    refine sound.published (Or.inr rfl) (fun service nothing => ?_) moved
    exact absurd nothing (Option.some_ne_none service).symm

theorem looped_sound {config : PublisherConfig} {labels : List (LoopedLabel Instance Payload)}
    {state : LoopedState Instance Payload}
    (reached : Transition.run (loopedStep config) .initial labels = some state) : state.Sound := by
  refine Transition.run_invariant (fun _ _ _ sound moved => loopedStep_sound sound moved) ?_ reached
  intro publisher loop stored
  rw [← Option.some.inj stored]
  exact .created

/-- What a step does to the publishers is nothing or one step of the publisher system. -/
theorem loopedStep_publishers {config : PublisherConfig} {state next : LoopedState Instance Payload}
    {label : LoopedLabel Instance Payload} (moved : loopedStep config state label = some next) :
    next.publishers = state.publishers ∨
      ∃ action, publisherStep config state.publishers ⟨label.time, action⟩ =
        some next.publishers ∧
          (label.action = .request action ∧ action.isRequest = true ∨
            (∃ publisher timer, label.action = .fire publisher timer ∧
              action = .startRun publisher) ∨
            ∃ publisher, label.action = .crash publisher ∧ action = .crash publisher) := by
  obtain ⟨time, action⟩ := label
  cases action with
  | onModuleInit publisher =>
    simp only [loopedStep] at moved
    split at moved
    · split at moved
      · exact nomatch moved
      · exact Or.inl (Option.some.inj moved ▸ rfl)
    · exact nomatch moved
  | fire publisher timer =>
    simp only [loopedStep] at moved
    split at moved
    · split at moved
      · exact Or.inl (Option.some.inj moved ▸ rfl)
      · split at moved
        · exact Or.inr ⟨.startRun publisher, (publish_eq_some moved).1,
            Or.inr (Or.inl ⟨publisher, timer, rfl, rfl⟩)⟩
        · exact Or.inl (Option.some.inj moved ▸ rfl)
      · exact nomatch moved
    · exact nomatch moved
  | request action =>
    simp only [loopedStep] at moved
    split at moved
    · rename_i request
      exact Or.inr ⟨action, (publish_eq_some moved).1, Or.inl ⟨rfl, request⟩⟩
    · exact nomatch moved
  | runEnded publisher =>
    simp only [loopedStep] at moved
    split at moved
    · split at moved
      · exact Or.inl (Option.some.inj moved ▸ rfl)
      · exact nomatch moved
    · exact nomatch moved
  | onApplicationShutdown publisher =>
    simp only [loopedStep] at moved
    split at moved
    · exact Or.inl (Option.some.inj moved ▸ rfl)
    · exact nomatch moved
  | crash publisher =>
    exact Or.inr ⟨.crash publisher, (publish_eq_some moved).1,
      Or.inr (Or.inr ⟨publisher, rfl, rfl⟩)⟩

/-- The publishers of a run of the processes are those of a run of the publisher system. -/
theorem looped_publishers {config : PublisherConfig} {labels : List (LoopedLabel Instance Payload)}
    {state : LoopedState Instance Payload}
    (reached : Transition.run (loopedStep config) .initial labels = some state) :
    ∃ publisherLabels,
      Transition.run (publisherStep config) .initial publisherLabels = some state.publishers := by
  have matched : ∀ (state : LoopedState Instance Payload) (label : LoopedLabel Instance Payload)
      (next : LoopedState Instance Payload) (publishers : PublisherState Instance Payload),
      state.publishers = publishers → loopedStep config state label = some next →
      ∃ labels later, Transition.run (publisherStep config) publishers labels = some later ∧
        next.publishers = later := by
    rintro state label next publishers rfl moved
    rcases loopedStep_publishers moved with same | ⟨action, stepped, _⟩
    · exact ⟨[], state.publishers, rfl, same⟩
    · refine ⟨[⟨label.time, action⟩], next.publishers, ?_, rfl⟩
      rw [Transition.run, stepped, Option.bind_some, Transition.run_nil]
  obtain ⟨publisherLabels, publishers, reachedPublishers, same⟩ :=
    Transition.run_simulated matched rfl reached
  exact ⟨publisherLabels, same ▸ reachedPublishers⟩

/-! ### One run at a time -/

/-- In every run of the processes, the timer for the next run of an instance is its only one, is
armed only while no run of the instance is under way, and may fire; between `onModuleInit` and
`onApplicationShutdown` there is such a timer or a run; after that there is no timer for a run,
and until the shutdown resolves there is one that tests again whether the last run is over. -/
theorem publisher_loop_one_run_at_a_time (config : PublisherConfig)
    {labels : List (LoopedLabel Instance Payload)} {state : LoopedState Instance Payload}
    (reached : Transition.run (loopedStep config) .initial labels = some state)
    {publisher : Instance} {loop : PublisherLoop}
    (stored : state.loops publisher = some loop) :
    (∀ timer, loop.timers.armed timer = some .runLoop →
      loop.running = false ∧ state.publishers.phase publisher = .idle ∧
        (∀ other, loop.timers.armed other = some .runLoop → other = timer) ∧
        ∀ time, ∃ next, loopedStep config state ⟨time, .fire publisher timer⟩ = some next ∧
          next.publishers.phase publisher = .claiming time []) ∧
    (loop.initialized = true → loop.stopping = false →
      loop.running = true ∨ ∃ timer, loop.timers.armed timer = some .runLoop) ∧
    (loop.stopping = true → (∀ timer, loop.timers.armed timer ≠ some .runLoop) ∧
      (loop.resolved = true ∨ ∃ timer, loop.timers.armed timer = some .delay)) := by
  have sound := looped_sound reached publisher loop stored
  refine ⟨fun timer armed => ?_, sound.alive, fun stops =>
    ⟨sound.stopping stops, sound.waiting stops⟩⟩
  obtain ⟨idle, starts, _⟩ := sound.started armed
  refine ⟨?_, idle, fun other isArmed => sound.held.unique isArmed armed, fun time => ?_⟩
  · by_contra runs
    exact sound.running (Bool.not_eq_false _ ▸ runs) timer armed
  · simp only [loopedStep, stored, armed, starts, if_true, LoopedState.publish, publisherStep,
      LoopedState.setLoop, idle, Option.map_some]
    refine ⟨_, rfl, ?_⟩
    rw [setPhase_phase, if_pos rfl]

/-- A process that starts, publishes the one row there is, and comes to the end of its run. -/
def polledRun : List (LoopedLabel Bool Unit) :=
  let input : CreateOutboxEventInput Unit :=
    { eventId := [], eventType := [], eventVersion := 1, topic := [], key := [], payload := (),
      nextAttemptAt := 5, createdAt := 5 }
  [⟨4, .onModuleInit true⟩, ⟨5, .request (.create 7 input)⟩, ⟨6, .fire true 0⟩,
    ⟨6, .request (.claim true)⟩, ⟨7, .request (.claim true)⟩,
    ⟨8, .request (.send true .acknowledged)⟩, ⟨9, .request (.markPublished true)⟩,
    ⟨10, .request (.finishRun true)⟩]

theorem publisher_loop_polled :
    ∃ state loop, Transition.run (loopedStep .default) .initial
        (polledRun ++ [⟨11, .runEnded true⟩]) = some state ∧
      state.loops true = some loop ∧
        (loop.running = true ∨ ∃ timer, loop.timers.armed timer = some .runLoop) := by
  have runs : (Transition.run (loopedStep .default) .initial
      (polledRun ++ [⟨11, .runEnded true⟩])).any (fun state =>
        (state.loops true).any fun loop => loop.initialized && !loop.stopping) = true := by
    decide +kernel
  obtain ⟨state, reached, some⟩ := (Option.any_eq_true _ _).mp runs
  obtain ⟨loop, stored, goes⟩ := (Option.any_eq_true _ _).mp some
  rw [Bool.and_eq_true, Bool.not_eq_true'] at goes
  exact ⟨state, loop, reached, stored,
    (publisher_loop_one_run_at_a_time .default reached stored).2.1 goes.1 goes.2⟩

/-! ### The rows an instance has locked -/

/-- Every row that the instance owns is one it still holds a snapshot of. -/
def HoldsLocked (publisher : Instance) (state : PublisherState Instance Payload) : Prop :=
  ∀ id, ∀ row ∈ state.outbox.find id, lockOwnerFilter publisher row = true →
    ∃ claimed ∈ (state.phase publisher).held, claimed.event.id = id

/-- The steps after which an instance may have let go of a snapshot without releasing its row:
a claim was rejected, or the update after a failed publish was, or the process crashed. -/
def PublisherAction.abandons (publisher : Instance) : PublisherAction Instance Payload → Bool
  | .claimFails other _ => other == publisher
  | .handlePublishFailureFails other _ _ => other == publisher
  | .crash other => other == publisher
  | _ => false

/-- The operation claims a row for the instance. -/
def OutboxAction.claims (publisher : Instance) : OutboxAction Instance Payload → Bool
  | .claim lockedBy _ => lockedBy == publisher
  | _ => false

/-- An update out of a claim leaves the row without an owner, whether it matches or not. -/
theorem not_locked_updateOne {outbox : OutboxCollection Instance Payload} {id : ObjectId}
    {publisher : Instance}
    {update : OutboxEventEntity Instance Payload → OutboxEventEntity Instance Payload}
    (releases : ∀ row, (update row).status ≠ .publishing) {row : OutboxEventEntity Instance Payload}
    (stored : (outbox.updateOne id (lockOwnerFilter publisher) update).2.find id = some row) :
    lockOwnerFilter publisher row = false := by
  rw [Collection.find_updateOne_self] at stored
  obtain ⟨before, _, isRow⟩ := Option.map_eq_some_iff.mp stored
  split at isRow
  · rw [← isRow, ← Bool.not_eq_true, lockOwnerFilter_iff]
    exact fun owned => releases before owned.2
  · rename_i unowned
    rw [← isRow]
    exact Bool.not_eq_true _ ▸ unowned

/-- An operation gives no instance a row, but a claim of its own. -/
theorem locked_of_perform {config : PublisherConfig} {write : OutboxAction Instance Payload}
    {outbox next : OutboxCollection Instance Payload}
    (performed : perform config write outbox = some next) {id : ObjectId} {publisher : Instance}
    {row : OutboxEventEntity Instance Payload} (stored : next.find id = some row)
    (owned : lockOwnerFilter publisher row = true) :
    (∃ before, outbox.find id = some before ∧ lockOwnerFilter publisher before = true) ∨
      write.claims publisher = true := by
  have step := perform_row performed id
  rw [stored] at step
  obtain ⟨lockedBy, publishing⟩ := (lockOwnerFilter_iff publisher row).mp owned
  generalize outbox.find id = before at step ⊢
  cases step with
  | unchanged => exact Or.inl ⟨row, rfl, owned⟩
  | created _ input => exact absurd publishing OutboxEventStatus.noConfusion
  | claimed other now _ before eligible =>
    exact Or.inr (beq_iff_eq.mpr (Option.some.inj lockedBy))
  | published => exact absurd publishing OutboxEventStatus.noConfusion
  | failure => exact absurd publishing (failureUpdate_status _ _ _ _ _ _ _)
  | redriven => exact absurd publishing OutboxEventStatus.noConfusion

/-- A step of the instance itself, or one that leaves what it holds as it is. -/
theorem HoldsLocked.written {config : PublisherConfig} {write : OutboxAction Instance Payload}
    {publisher : Instance} {state next : PublisherState Instance Payload}
    (holds : HoldsLocked publisher state)
    (performed : perform config write state.outbox = some next.outbox)
    (unclaimed : write.claims publisher = false)
    (kept : ∀ claimed ∈ (state.phase publisher).held,
      claimed ∈ (next.phase publisher).held ∨
        ∀ row ∈ next.outbox.find claimed.event.id, lockOwnerFilter publisher row = false) :
    HoldsLocked publisher next := by
  intro id row stored owned
  rcases locked_of_perform performed stored owned with ⟨before, was, ownedBefore⟩ | claims
  · obtain ⟨claimed, member, rfl⟩ := holds id before was ownedBefore
    rcases kept claimed member with stays | released
    · exact ⟨claimed, stays, rfl⟩
    · exact absurd (owned.symm.trans (released row stored)) Bool.noConfusion
  · exact absurd (claims.symm.trans unclaimed) Bool.noConfusion

theorem HoldsLocked.setPhase {publisher other : Instance} {phase : Phase Instance Payload}
    {state : PublisherState Instance Payload} (holds : HoldsLocked publisher state)
    (kept : other = publisher → ∀ claimed ∈ (state.phase publisher).held, claimed ∈ phase.held) :
    HoldsLocked publisher (state.setPhase other phase) := by
  intro id row stored owned
  obtain ⟨claimed, member, same⟩ := holds id row stored owned
  refine ⟨claimed, ?_, same⟩
  rw [setPhase_phase]
  split
  · rename_i isOther
    exact kept isOther.symm claimed member
  · exact member

/-- A request, applied or not, after which the instance has what it had. -/
theorem HoldsLocked.requested {config : PublisherConfig} {write : OutboxAction Instance Payload}
    {publisher other : Instance} {phase : Phase Instance Payload} {applied : Bool}
    {state written : PublisherState Instance Payload} (holds : HoldsLocked publisher state)
    (wrote : state.writeIf applied config write = some written)
    (unclaimed : write.claims publisher = false)
    (kept : other = publisher → ∀ claimed ∈ (state.phase publisher).held, claimed ∈ phase.held) :
    HoldsLocked publisher (written.setPhase other phase) := by
  rw [PublisherState.writeIf] at wrote
  split at wrote
  · refine HoldsLocked.setPhase ?_ ?_
    · refine holds.written (write_eq_some wrote).1 unclaimed fun claimed member => Or.inl ?_
      rw [phase_of_write wrote]
      exact member
    · rw [phase_of_write wrote]
      exact kept
  · rw [← Option.some.inj wrote]
    exact holds.setPhase kept

/-- The update that ends a claim, of the instance itself or of another one. -/
theorem HoldsLocked.released {config : PublisherConfig} {write : OutboxAction Instance Payload}
    {publisher other : Instance} {current : ClaimedEvent Instance Payload}
    {rest : List (ClaimedEvent Instance Payload)} {state written : PublisherState Instance Payload}
    (holds : HoldsLocked publisher state) (wrote : state.write config write = some written)
    (unclaimed : write.claims publisher = false)
    (was : (state.phase other).held = current :: rest)
    (releases : other = publisher → ∀ row ∈ written.outbox.find current.event.id,
      lockOwnerFilter publisher row = false) :
    HoldsLocked publisher (written.setPhase other (.publishing rest)) := by
  refine HoldsLocked.written holds (write_eq_some wrote).1 unclaimed ?_
  intro claimed member
  rw [setPhase_phase]
  split
  · rename_i same
    subst same
    rw [was] at member
    rcases List.mem_cons.mp member with rfl | waits
    · exact Or.inr (releases rfl)
    · exact Or.inl waits
  · rw [phase_of_write wrote]
    exact Or.inl member

/-- A claim of the instance itself: what it newly owns it newly holds. -/
theorem HoldsLocked.claimed {config : PublisherConfig} {publisher : Instance} {now : Int}
    {held : List (ClaimedEvent Instance Payload)} {event : OutboxEvent Instance Payload}
    {collection : OutboxCollection Instance Payload} {number : Nat}
    {state written : PublisherState Instance Payload} (holds : HoldsLocked publisher state)
    (was : state.phase publisher = .claiming now held)
    (found : claimOne (config.claimInput publisher now) state.outbox = some (event, collection))
    (wrote : state.write config (.claim publisher now) = some written) :
    HoldsLocked publisher
      (written.setPhase publisher (.claiming now (held ++ [⟨event, number⟩]))) := by
  have performed := (write_eq_some wrote).1
  simp only [perform, found, Option.some_inj] at performed
  intro id row stored owned
  rw [setPhase_phase, if_pos rfl]
  have after : written.outbox.find id = some row := stored
  rw [← performed] at after
  rcases claimOne_find found id with ⟨_, same⟩ | ⟨_, isEvent, _⟩
  · rw [same] at after
    obtain ⟨claimed, member, isId⟩ := holds id row after owned
    rw [was] at member
    exact ⟨claimed, List.mem_append_left _ member, isId⟩
  · exact ⟨⟨event, number⟩, List.mem_append_right _ List.mem_cons_self, isEvent.symm⟩

theorem HoldsLocked.moved {publisher other : Instance} {before phase : Phase Instance Payload}
    {state : PublisherState Instance Payload} (holds : HoldsLocked publisher state)
    (was : state.phase other = before) (kept : before.held ⊆ phase.held) :
    HoldsLocked publisher (state.setPhase other phase) := by
  refine holds.setPhase fun same claimed member => kept ?_
  rw [← was, same]
  exact member

/-- Only an instance claims. -/
theorem claims_of_environmentWrite {time : Int} {action : PublisherAction Instance Payload}
    {write : OutboxAction Instance Payload}
    (outside : environmentWrite time action = some write) (publisher : Instance) :
    write.claims publisher = false := by
  cases action with
  | create id input =>
    cases outside
    rfl
  | redriveFailed selected =>
    cases outside
    rfl
  | expire id =>
    cases outside
    rfl
  | _ => cases outside

/-- Whatever step the publisher system takes, an instance holds what it owns, unless it
abandons it. -/
theorem publisherStep_holdsLocked {config : PublisherConfig} {publisher : Instance}
    {state next : PublisherState Instance Payload} {label : PublisherLabel Instance Payload}
    (holds : HoldsLocked publisher state) (keeps : label.action.abandons publisher = false)
    (moved : publisherStep config state label = some next) : HoldsLocked publisher next := by
  have transition := publisherStep_transition moved
  generalize label.time = time, label.action = action at transition keeps
  cases transition with
  | environment outside wrote =>
    refine holds.written (write_eq_some wrote).1 (claims_of_environmentWrite outside publisher)
      fun claimed member => Or.inl ?_
    rw [phase_of_write wrote]
    exact member
  | started was => exact holds.moved was (List.nil_subset _)
  | @claimed other now held event collection written was room found wrote =>
    by_cases same : other = publisher
    · subst same
      exact holds.claimed was found wrote
    · have applied : state.writeIf true config (.claim other now) = some written := wrote
      exact holds.requested applied (beq_eq_false_iff_ne.mpr same) fun isOther =>
        absurd isOther same
  | claimsDone was nothing => exact holds.moved was (List.Subset.refl _)
  | claimFailed was wrote =>
    exact holds.requested wrote keeps fun isOther => absurd isOther (beq_eq_false_iff_ne.mp keeps)
  | @acknowledged _ current rest was =>
    have counted : HoldsLocked publisher (state.countSend current.event.id) := holds
    exact counted.moved was (List.Subset.refl _)
  | @rejected _ _ _ current rest was =>
    have counted : HoldsLocked publisher (state.countSend current.event.id) := holds
    exact counted.moved was (List.Subset.refl _)
  | marked was wrote =>
    refine holds.released wrote rfl (congrArg Phase.held was) ?_
    rintro rfl row stored
    have performed := (write_eq_some wrote).1
    rw [perform, Option.some_inj] at performed
    rw [← performed] at stored
    have releases : ∀ row : OutboxEventEntity Instance Payload,
      (publishedUpdate time row).status ≠ .publishing := fun _ => OutboxEventStatus.noConfusion
    exact not_locked_updateOne releases stored
  | markFailed was wrote =>
    refine holds.requested wrote rfl fun same claimed member => ?_
    rw [← same, was] at member
    exact member
  | failureHandled was drawn wrote =>
    refine holds.released wrote rfl (congrArg Phase.held was) ?_
    rintro rfl row stored
    have performed := (write_eq_some wrote).1
    rw [perform, Option.some_inj, handlePublishFailure_eq] at performed
    rw [← performed] at stored
    exact not_locked_updateOne (failureUpdate_status _ _ _ _ _ _) stored
  | failureFailed was drawn wrote =>
    exact holds.requested wrote rfl fun isOther => absurd isOther (beq_eq_false_iff_ne.mp keeps)
  | finished was => exact holds.moved was (List.Subset.refl _)
  | crashed other =>
    exact holds.setPhase fun isOther => absurd isOther (beq_eq_false_iff_ne.mp keeps)

/-! ### A shutdown that waited -/

def LoopedAction.abandons (publisher : Instance) : LoopedAction Instance Payload → Bool
  | .request action => action.abandons publisher
  | _ => false

/-- A process that crashed does not come back. -/
theorem loopedStep_gone {config : PublisherConfig} {publisher : Instance}
    {state next : LoopedState Instance Payload} {label : LoopedLabel Instance Payload}
    (gone : state.loops publisher = none) (moved : loopedStep config state label = some next) :
    next.loops publisher = none := by
  have kept : ∀ {other : Instance} {service : PublisherLoop} (changed : Option PublisherLoop),
      state.loops other = some service → Function.update state.loops other changed publisher =
        none := by
    intro other service changed stored
    by_cases same : publisher = other
    · rw [← same, gone] at stored
      exact nomatch stored
    · rw [Function.update_of_ne same, gone]
  obtain ⟨time, action⟩ := label
  cases action with
  | onModuleInit other =>
    simp only [loopedStep] at moved
    split at moved
    · rename_i stored
      split at moved
      · exact nomatch moved
      · rw [← Option.some.inj moved, loops_setLoop, kept _ stored]
    · exact nomatch moved
  | fire other timer =>
    simp only [loopedStep] at moved
    split at moved
    · rename_i stored
      split at moved
      · rw [← Option.some.inj moved, loops_setLoop, kept _ stored]
      · split at moved
        · rw [(publish_eq_some moved).2, loops_setLoop, kept _ stored]
        · rw [← Option.some.inj moved, loops_setLoop, kept _ stored]
      · exact nomatch moved
    · exact nomatch moved
  | request action =>
    simp only [loopedStep] at moved
    split at moved
    · rw [(publish_eq_some moved).2, gone]
    · exact nomatch moved
  | runEnded other =>
    simp only [loopedStep] at moved
    split at moved
    · rename_i stored
      split at moved
      · rw [← Option.some.inj moved, loops_setLoop, kept _ stored]
      · exact nomatch moved
    · exact nomatch moved
  | onApplicationShutdown other =>
    simp only [loopedStep] at moved
    split at moved
    · rename_i stored
      rw [← Option.some.inj moved, loops_setLoop, kept _ stored]
    · exact nomatch moved
  | crash other =>
    rw [(publish_eq_some moved).2, loops_setLoop]
    by_cases same : publisher = other
    · rw [same, Function.update_self]
    · rw [Function.update_of_ne same, gone]

/-- A process that has not crashed, and abandoned nothing, holds what it owns. -/
theorem looped_holdsLocked {config : PublisherConfig} {publisher : Instance}
    {labels : List (LoopedLabel Instance Payload)} {state : LoopedState Instance Payload}
    (reached : Transition.run (loopedStep config) .initial labels = some state)
    (keeps : ∀ label ∈ labels, label.action.abandons publisher = false)
    {loop : PublisherLoop} (stored : state.loops publisher = some loop) :
    HoldsLocked publisher state.publishers := by
  have preserved : ∀ (state : LoopedState Instance Payload) (label : LoopedLabel Instance Payload)
      (next : LoopedState Instance Payload),
      (state.loops publisher = none ∨ HoldsLocked publisher state.publishers) →
      label.action.abandons publisher = false → loopedStep config state label = some next →
      (next.loops publisher = none ∨ HoldsLocked publisher next.publishers) := by
    intro state label next invariant keeps moved
    rcases invariant with gone | holds
    · exact Or.inl (loopedStep_gone gone moved)
    rcases loopedStep_publishers moved with same | ⟨action, stepped, acts⟩
    · exact Or.inr (same ▸ holds)
    rcases acts with ⟨isRequest, _⟩ | ⟨other, timer, _, starts⟩ | ⟨other, crashes, isCrash⟩
    · rw [isRequest] at keeps
      refine Or.inr (publisherStep_holdsLocked holds ?_ stepped)
      exact keeps
    · subst starts
      exact Or.inr (publisherStep_holdsLocked holds rfl stepped)
    · subst isCrash
      by_cases same : other = publisher
      · refine Or.inl ?_
        obtain ⟨time, action⟩ := label
        subst crashes same
        rw [(publish_eq_some moved).2, loops_setLoop, Function.update_self]
      · refine Or.inr (publisherStep_holdsLocked holds ?_ stepped)
        exact beq_eq_false_iff_ne.mpr same
  have initially : (LoopedState.initial : LoopedState Instance Payload).loops publisher = none ∨
      HoldsLocked publisher (LoopedState.initial : LoopedState Instance Payload).publishers :=
    Or.inr fun id row stored => nomatch stored
  rcases Transition.run_invariant_along preserved initially
    (Transition.along_of_forall (fun label member _ => keeps label member) _) reached with
    gone | holds
  · exact absurd (gone.symm.trans stored) (Option.some_ne_none loop).symm
  · exact holds

/-- The process that takes a step of the publisher system. -/
def PublisherAction.issuer : PublisherAction Instance Payload → Option Instance
  | .create _ _ => none
  | .redriveFailed _ => none
  | .expire _ => none
  | .startRun publisher => some publisher
  | .claim publisher => some publisher
  | .claimFails publisher _ => some publisher
  | .send publisher _ => some publisher
  | .markPublished publisher => some publisher
  | .markPublishedFails publisher _ _ => some publisher
  | .handlePublishFailure publisher _ => some publisher
  | .handlePublishFailureFails publisher _ _ => some publisher
  | .finishRun publisher => some publisher
  | .crash publisher => some publisher

/-- The process that takes a step. -/
def LoopedAction.issuer : LoopedAction Instance Payload → Option Instance
  | .onModuleInit publisher => some publisher
  | .fire publisher _ => some publisher
  | .request action => action.issuer
  | .runEnded publisher => some publisher
  | .onApplicationShutdown publisher => some publisher
  | .crash publisher => some publisher

/-- Between two runs an instance makes no request. -/
theorem publisherStep_idle {config : PublisherConfig} {publisher : Instance} {time : Int}
    {action : PublisherAction Instance Payload} {state : PublisherState Instance Payload}
    (idle : state.phase publisher = .idle) (issued : action.issuer = some publisher)
    (request : action.isRequest = true) : publisherStep config state ⟨time, action⟩ = none := by
  cases action with
  | create id input => exact nomatch issued
  | redriveFailed selected => exact nomatch issued
  | expire id => exact nomatch issued
  | startRun other => exact nomatch request
  | crash other => exact nomatch request
  | _ other =>
    obtain rfl := Option.some.inj issued
    simp only [publisherStep, idle]

/-- Once `onApplicationShutdown` of an instance has resolved, the instance holds no snapshot and no
step of its process does anything in the publisher system, unless it crashes; and if no claim of
it, and no update after a failed publish, was rejected, it has no row locked. -/
theorem publisher_shutdown_final (config : PublisherConfig)
    {labels : List (LoopedLabel Instance Payload)} {state : LoopedState Instance Payload}
    (reached : Transition.run (loopedStep config) .initial labels = some state)
    {publisher : Instance} {loop : PublisherLoop} (stored : state.loops publisher = some loop)
    (resolved : loop.resolved = true) :
    (state.publishers.phase publisher).held = [] ∧
    (∀ label next, label.action.issuer = some publisher →
      loopedStep config state label = some next →
      label.action = .crash publisher ∨ next.publishers = state.publishers) ∧
    ((∀ label ∈ labels, label.action.abandons publisher = false) →
      ∀ id, ∀ row ∈ state.publishers.outbox.find id, row.lockedBy ≠ some publisher) := by
  have sound := looped_sound reached publisher loop stored
  obtain ⟨stops, ended⟩ := sound.resolved resolved
  have idle := sound.idle ended
  refine ⟨?_, fun label next issued moved => ?_, fun keeps id row isRow locked => ?_⟩
  · rw [idle]
    rfl
  · rcases loopedStep_publishers moved with same | ⟨action, stepped, acts⟩
    · exact Or.inr same
    rcases acts with ⟨isRequest, request⟩ | ⟨other, timer, fires, _⟩ | ⟨other, crashes, _⟩
    · rw [isRequest] at issued
      rw [publisherStep_idle idle issued request] at stepped
      exact nomatch stepped
    · obtain ⟨time, action⟩ := label
      subst fires
      obtain rfl := Option.some.inj issued
      -- Only a timer of `delay` is left to fire.
      simp only [loopedStep, stored] at moved
      split at moved
      · exact Or.inr (Option.some.inj moved ▸ rfl)
      · rename_i armed
        exact absurd armed (sound.stopping stops timer)
      · exact nomatch moved
    · rw [crashes] at issued ⊢
      exact Or.inl (congrArg _ (Option.some.inj issued))
  · obtain ⟨publisherLabels, reachedPublishers⟩ := looped_publishers reached
    have invariant := (publisher_invariant reachedPublishers).rows id row isRow
    have publishing : row.status = .publishing := by
      rw [← invariant.lockedBy_iff, locked]
      rfl
    obtain ⟨claimed, member, _⟩ := looped_holdsLocked reached keeps stored id row isRow
      ((lockOwnerFilter_iff publisher row).mpr ⟨locked, publishing⟩)
    rw [idle] at member
    exact absurd member List.not_mem_nil

/-- The same process, shut down at the end of its run. -/
def shutdownRun : List (LoopedLabel Bool Unit) :=
  polledRun ++
    [⟨11, .onApplicationShutdown true⟩, ⟨12, .runEnded true⟩, ⟨36, .fire true 1⟩]

theorem publisher_shutdown_polled :
    ∃ state, Transition.run (loopedStep .default) .initial shutdownRun = some state ∧
      ∀ id, ∀ row ∈ state.publishers.outbox.find id, row.lockedBy ≠ some true := by
  have runs : (Transition.run (loopedStep .default) .initial shutdownRun).any
      (fun state => (state.loops true).any fun loop => loop.resolved) = true := by
    decide +kernel
  obtain ⟨state, reached, some⟩ := (Option.any_eq_true _ _).mp runs
  obtain ⟨loop, stored, resolved⟩ := (Option.any_eq_true _ _).mp some
  have keeps : (shutdownRun.all fun label => !label.action.abandons true) = true := by
    decide +kernel
  refine ⟨state, reached, (publisher_shutdown_final .default reached stored resolved).2.2 ?_⟩
  intro label member
  exact Bool.not_eq_true' _ ▸ List.all_eq_true.mp keeps label member

end MessageManagement
