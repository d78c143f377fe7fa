/-
This file models `consumeUntilDone`, the loop of the redrive of the dead-letter
topic: its flag, its idle timer, the one call of `consumer.stop`, and the promise
that settles after it.

The idle timer keeps running while a record is at work, so it may end the loop in
the middle of `handlePayload`; the promise then settles once the record is done
with, and what the run counted includes it. Seen that way, every run of the loop
is a run of the redrive as the pipeline has it, where the idle timeout ends a run
between two records.

Of KafkaJS it assumes that nothing is delivered after `stop` was called, and that
`stop` settles, whichever way, only when no record is at work.
-/

import MessageManagement.DlqRedrive
import MessageManagement.Library.Timers

namespace MessageManagement

variable {Session : Type}

/-! ### The loop -/

/-- The variables of a `consumeUntilDone` call and the timers of its process, which all call
`finish`. `failed` says that the first `finish` was called with an error, `stops` counts the calls
of `consumer.stop`. -/
structure ConsumeUntilDone where
  done : Bool
  idleTimer : Option Nat
  timers : Timers Unit
  failed : Bool
  stops : Nat

namespace ConsumeUntilDone

def finish (error : Bool) (loop : ConsumeUntilDone) : ConsumeUntilDone :=
  if loop.done then loop
  else
    { loop with
      done := true
      timers := loop.timers.clearHeld loop.idleTimer
      failed := error
      stops := loop.stops + 1 }

def resetIdleTimer (loop : ConsumeUntilDone) : ConsumeUntilDone :=
  let timers := loop.timers.clearHeld loop.idleTimer
  { loop with idleTimer := some timers.next, timers := timers.setTimeout () }

/-- The executor of the promise, up to `consumer.run`. -/
def start : ConsumeUntilDone :=
  resetIdleTimer { done := false, idleTimer := none, timers := .empty, failed := false, stops := 0 }

/-- The idle timer fires. -/
def fired (timer : Nat) (loop : ConsumeUntilDone) : ConsumeUntilDone :=
  finish false { loop with timers := loop.timers.clearTimeout timer }

end ConsumeUntilDone

/-- A run of `redrive` with its loop. The phase of the session is that of the handler as long as
the promise has not settled. -/
structure RedriveRun where
  session : RedriveSession
  loop : ConsumeUntilDone
  stopReason : RedriveStopReason

def RedriveRun.start (input : DlqRedriveInput) : RedriveRun where
  session := .start input
  loop := .start
  stopReason := .idleTimeout

/-- `handlePayload` resolved for the record at an offset, and `finish` is called if it resolved
to `true`. -/
def RedriveRun.payloadHandled (partition offset : Nat) (run : RedriveRun) : RedriveRun :=
  let session :=
    { run.session with
      position := Function.update run.session.position partition (some (offset + 1))
      phase := .polling }
  if session.input.limit ≤ session.consumedCount then
    { session, stopReason := .limitReached, loop := run.loop.finish false }
  else { run with session }

/-- `handlePayload` rejected: the record is delivered again. -/
def RedriveRun.payloadFailed (run : RedriveRun) : RedriveRun :=
  { run with session := { run.session with phase := .polling } }

/-- `eachMessage` delivers the next record of a partition, `idle` is the idle timer that fires,
`runRejects` the promise of `consumer.run` that rejects, with a value that is an error to `finish`
or not, and `stopSettles` the one of `consumer.stop` that settles. -/
inductive RedriveLoopAction
  | start (input : DlqRedriveInput)
  | assign (partition : Nat)
  | eachMessage (partition : Nat)
  | republish (partition : Nat) (outcome : SendOutcome)
  | commitOffsets (outcome : CommitOutcome)
  | idle (timer : Nat)
  | runRejects (error : Bool)
  | stopSettles
  | crash

/-- The promise of the run has settled, or its process is gone. -/
def RedrivePhase.isSettled : RedrivePhase → Bool
  | .returned _ => true
  | .rejected => true
  | _ => false

def redriveLoopStep (topics : MessageTopics) :
    RedriveLoopAction → Option RedriveRun → Option (RedriveRun × MessageTopics)
  | .start input, none => some (.start input, topics)
  | .assign partition, some run =>
    some ({ run with
      session := { run.session with
        position :=
          Function.update run.session.position partition (some (topics.dlq.passed partition)) } },
      topics)
  | .eachMessage partition, some run =>
    match run.session.phase, run.session.position partition, run.loop.done with
    | .polling, some offset, false =>
      (topics.dlq.read partition offset).map fun record =>
        let session := { run.session with consumedCount := run.session.consumedCount + 1 }
        let run := { run with session, loop := run.loop.resetIdleTimer }
        if session.input.dryRun then (run.payloadHandled partition offset, topics)
        else
          ({ run with session := { session with phase := .republishing partition offset record } },
            topics)
    | _, _, _ => none
  | .republish mainPartition outcome, some run =>
    match run.session.phase with
    | .republishing partition offset record =>
      let sent := topics.send MESSAGE_CREATED_TOPIC mainPartition record outcome
      if outcome.isAcknowledged then
        some ({ run with
          session := { run.session with
            phase := .committing partition offset
            republishedCount := run.session.republishedCount + 1 } },
          { sent with dlq := sent.dlq.settle partition offset })
      else some (run.payloadFailed, sent)
    | _ => none
  | .commitOffsets outcome, some run =>
    match run.session.phase with
    | .committing partition offset =>
      let passed := { topics with dlq := topics.dlq.pass partition (offset + 1) }
      match outcome with
      | .acknowledged =>
        some (RedriveRun.payloadHandled partition offset
          { run with
            session := { run.session with committedCount := run.session.committedCount + 1 } },
          passed)
      | .rejected applied => some (run.payloadFailed, if applied then passed else topics)
    | _ => none
  | .idle timer, some run =>
    if run.session.phase.isSettled || (run.loop.timers.armed timer).isNone then none
    else some ({ run with loop := run.loop.fired timer }, topics)
  | .runRejects error, some run =>
    if run.session.phase.isSettled then none
    else some ({ run with loop := run.loop.finish error }, topics)
  | .stopSettles, some run =>
    match run.session.phase, run.loop.done with
    | .polling, true =>
      some ({ run with
        session := { run.session with
          phase := if run.loop.failed then .rejected else .returned run.stopReason } }, topics)
    | _, _ => none
  | .crash, some run =>
    some ({ run with session := { run.session with phase := .rejected } }, topics)
  | _, _ => none

/-! ### What the loop keeps -/

namespace ConsumeUntilDone

/-- What the flag says of the idle timer and of the calls of `stop`. -/
structure Sound (loop : ConsumeUntilDone) : Prop where
  held : loop.timers.HeldBy () loop.idleTimer
  armed : loop.done = false → ∃ timer, loop.timers.armed timer = some ()
  quiet : loop.done = true → loop.timers.Quiet ()
  stops : loop.stops = if loop.done then 1 else 0

variable {loop : ConsumeUntilDone}

theorem Sound.resetIdleTimer (held : loop.timers.HeldBy () loop.idleTimer)
    (goes : loop.done = false) (stops : loop.stops = 0) : loop.resetIdleTimer.Sound where
  held := held.clearHeld.setTimeout
  armed _ := ⟨_, Timers.armed_setTimeout_next _ _⟩
  quiet done := absurd (goes.symm.trans done) Bool.noConfusion
  stops := by
    rw [show loop.resetIdleTimer.done = false from goes]
    exact stops

theorem Sound.start : ConsumeUntilDone.start.Sound :=
  .resetIdleTimer (Timers.quiet_empty.heldBy none) rfl rfl

theorem Sound.finish (sound : loop.Sound) (error : Bool) : (loop.finish error).Sound := by
  unfold ConsumeUntilDone.finish
  split
  · exact sound
  · rename_i goes
    have none : loop.stops = 0 := by
      rw [sound.stops, if_neg goes]
    exact {
      held := sound.held.clearHeld.heldBy _
      armed := fun continues => nomatch continues
      quiet := fun _ => sound.held.clearHeld
      stops := congrArg Nat.succ none }

theorem done_finish (loop : ConsumeUntilDone) (error : Bool) : (loop.finish error).done = true := by
  unfold ConsumeUntilDone.finish
  split
  · assumption
  · rfl

/-- The timer that fires is the idle timer of a loop that goes on. -/
theorem Sound.fired (sound : loop.Sound) {timer : Nat}
    (armed : loop.timers.armed timer = some ()) : (loop.fired timer).Sound := by
  have goes : loop.done = false := by
    by_contra done
    exact sound.quiet (Bool.not_eq_false _ ▸ done) timer armed
  have quiet := sound.held.fired armed
  have none : loop.stops = 0 := by
    rw [sound.stops, goes]
    rfl
  unfold ConsumeUntilDone.fired ConsumeUntilDone.finish
  dsimp only
  rw [if_neg (Bool.not_eq_true _ ▸ goes)]
  exact {
    held := (quiet.heldBy loop.idleTimer).clearHeld.heldBy _
    armed := fun continues => nomatch continues
    quiet := fun _ => (quiet.heldBy loop.idleTimer).clearHeld
    stops := congrArg Nat.succ none }

end ConsumeUntilDone

/-- What a run keeps: the reason to stop is that of the idle timeout until the limit is reached,
and that ends the loop. -/
structure RedriveRun.Sound (run : RedriveRun) : Prop where
  loop : run.loop.Sound
  working : run.session.phase.isIdle = false → run.stopReason = .idleTimeout
  goes : run.loop.done = false → run.stopReason = .idleTimeout
  limit : run.stopReason = .limitReached →
    run.session.input.limit ≤ run.session.consumedCount
  returned : ∀ reason, run.session.phase = .returned reason →
    run.loop.done = true ∧ reason = run.stopReason

theorem RedriveRun.Sound.start (input : DlqRedriveInput) : (RedriveRun.start input).Sound where
  loop := .start
  working := fun working => nomatch working
  goes _ := rfl
  limit := fun reached => nomatch reached
  returned := fun _ phase => nomatch phase

/-- What may change about a run that has not stopped for its limit. -/
theorem RedriveRun.Sound.changed {session : RedriveSession} {loop : ConsumeUntilDone}
    (loopSound : loop.Sound) (settled : session.phase.isSettled = false) :
    RedriveRun.Sound { session, loop, stopReason := .idleTimeout } where
  loop := loopSound
  working _ := rfl
  goes _ := rfl
  limit := fun reached => nomatch reached
  returned reason phase := by
    have phase : session.phase = .returned reason := phase
    rw [phase] at settled
    exact nomatch settled

theorem RedriveRun.Sound.payloadHandled {session : RedriveSession} {loop : ConsumeUntilDone}
    (loopSound : loop.Sound) (partition offset : Nat) :
    (RedriveRun.payloadHandled partition offset
      { session, loop, stopReason := .idleTimeout }).Sound := by
  unfold RedriveRun.payloadHandled
  dsimp only
  split
  · rename_i reached
    exact {
      loop := loopSound.finish false
      working := fun working => nomatch working
      goes := fun goes => absurd ((loop.done_finish false).symm.trans goes) Bool.noConfusion
      limit := fun _ => reached
      returned := fun _ phase => nomatch phase }
  · exact .changed loopSound rfl

theorem RedriveRun.Sound.payloadFailed {session : RedriveSession} {loop : ConsumeUntilDone}
    (loopSound : loop.Sound) :
    (RedriveRun.payloadFailed { session, loop, stopReason := .idleTimeout }).Sound :=
  .changed loopSound rfl

/-! ### What a step of the loop does -/

/-- What a step of a run does, by its action. The reason to stop is written out where it can be
only one. -/
inductive RedriveLoopTransition (topics : MessageTopics) :
    RedriveLoopAction → Option RedriveRun → RedriveRun × MessageTopics → Prop
  | start input : RedriveLoopTransition topics (.start input) none (.start input, topics)
  | assign partition run :
      RedriveLoopTransition topics (.assign partition) (some run)
        ({ run with
          session := { run.session with
            position :=
              Function.update run.session.position partition
                (some (topics.dlq.passed partition)) } },
          topics)
  | deliveredDry {run partition offset record} (was : run.session.phase = .polling)
      (position : run.session.position partition = some offset) (goes : run.loop.done = false)
      (found : topics.dlq.read partition offset = some record)
      (dry : run.session.input.dryRun = true) :
      RedriveLoopTransition topics (.eachMessage partition) (some run)
        (RedriveRun.payloadHandled partition offset
          { run with
            session := { run.session with consumedCount := run.session.consumedCount + 1 }
            loop := run.loop.resetIdleTimer },
          topics)
  | delivered {run partition offset record} (was : run.session.phase = .polling)
      (position : run.session.position partition = some offset) (goes : run.loop.done = false)
      (found : topics.dlq.read partition offset = some record)
      (confirmed : run.session.input.dryRun = false) :
      RedriveLoopTransition topics (.eachMessage partition) (some run)
        ({ run with
          session := { run.session with
            consumedCount := run.session.consumedCount + 1
            phase := .republishing partition offset record }
          loop := run.loop.resetIdleTimer },
          topics)
  | republished {run partition offset record} (mainPartition) {outcome : SendOutcome}
      (was : run.session.phase = .republishing partition offset record)
      (acknowledged : outcome.isAcknowledged = true) :
      RedriveLoopTransition topics (.republish mainPartition outcome) (some run)
        ({ run with
          session := { run.session with
            phase := .committing partition offset
            republishedCount := run.session.republishedCount + 1 } },
          { topics.send MESSAGE_CREATED_TOPIC mainPartition record outcome with
            dlq := (topics.send MESSAGE_CREATED_TOPIC mainPartition record outcome).dlq.settle
              partition offset })
  | notRepublished {run partition offset record} (mainPartition) {outcome : SendOutcome}
      (was : run.session.phase = .republishing partition offset record)
      (refused : outcome.isAcknowledged = false) :
      RedriveLoopTransition topics (.republish mainPartition outcome) (some run)
        (run.payloadFailed, topics.send MESSAGE_CREATED_TOPIC mainPartition record outcome)
  | committed {run partition offset} (was : run.session.phase = .committing partition offset) :
      RedriveLoopTransition topics (.commitOffsets .acknowledged) (some run)
        (RedriveRun.payloadHandled partition offset
          { run with
            session := { run.session with committedCount := run.session.committedCount + 1 } },
          { topics with dlq := topics.dlq.pass partition (offset + 1) })
  | notCommitted {run partition offset} (applied)
      (was : run.session.phase = .committing partition offset) :
      RedriveLoopTransition topics (.commitOffsets (.rejected applied)) (some run)
        (run.payloadFailed,
          if applied then { topics with dlq := topics.dlq.pass partition (offset + 1) } else topics)
  | idle {run timer} (unsettled : run.session.phase.isSettled = false)
      (armed : run.loop.timers.armed timer = some ()) :
      RedriveLoopTransition topics (.idle timer) (some run)
        ({ run with loop := run.loop.fired timer }, topics)
  | runRejected {run} (error) (unsettled : run.session.phase.isSettled = false) :
      RedriveLoopTransition topics (.runRejects error) (some run)
        ({ run with loop := run.loop.finish error }, topics)
  | settled {run} (was : run.session.phase = .polling) (done : run.loop.done = true) :
      RedriveLoopTransition topics .stopSettles (some run)
        ({ run with
          session := { run.session with
            phase := if run.loop.failed then .rejected else .returned run.stopReason } },
          topics)
  | crashed run :
      RedriveLoopTransition topics .crash (some run)
        ({ run with session := { run.session with phase := .rejected } }, topics)

theorem redriveLoopStep_transition {topics : MessageTopics} {action : RedriveLoopAction}
    {run? : Option RedriveRun} {result : RedriveRun × MessageTopics}
    (moved : redriveLoopStep topics action run? = some result) :
    RedriveLoopTransition topics action run? result := by
  cases run? with
  | none =>
    cases action with
    | start input => exact Option.some.inj moved ▸ .start input
    | _ => exact nomatch moved
  | some run =>
    cases action with
    | start input => exact nomatch moved
    | assign partition => exact Option.some.inj moved ▸ .assign partition run
    | eachMessage partition =>
      simp only [redriveLoopStep] at moved
      split at moved
      · rename_i was position goes
        obtain ⟨record, found, isResult⟩ := Option.map_eq_some_iff.mp moved
        rw [← isResult]
        split
        · rename_i dry
          exact .deliveredDry was position goes found dry
        · rename_i confirmed
          exact .delivered was position goes found (Bool.not_eq_true _ ▸ confirmed)
      · exact nomatch moved
    | republish mainPartition outcome =>
      simp only [redriveLoopStep] at moved
      split at moved
      · rename_i was
        split at moved
        · rename_i acknowledged
          exact Option.some.inj moved ▸ .republished mainPartition was acknowledged
        · rename_i refused
          exact Option.some.inj moved ▸
            .notRepublished mainPartition was (Bool.not_eq_true _ ▸ refused)
      · exact nomatch moved
    | commitOffsets outcome =>
      simp only [redriveLoopStep] at moved
      split at moved
      · rename_i was
        split at moved
        · exact Option.some.inj moved ▸ .committed was
        · exact Option.some.inj moved ▸ .notCommitted _ was
      · exact nomatch moved
    | idle timer =>
      simp only [redriveLoopStep] at moved
      split at moved
      · exact nomatch moved
      · rename_i fires
        obtain ⟨unsettled, armed⟩ := not_or.mp fun either => fires (Bool.or_eq_true _ _ ▸ either)
        obtain ⟨callback, armed⟩ := Option.ne_none_iff_exists'.mp fun nothing =>
          armed (Option.isNone_iff_eq_none.mpr nothing)
        exact Option.some.inj moved ▸ .idle (Bool.not_eq_true _ ▸ unsettled) armed
    | runRejects error =>
      simp only [redriveLoopStep] at moved
      split at moved
      · exact nomatch moved
      · rename_i unsettled
        exact Option.some.inj moved ▸ .runRejected error (Bool.not_eq_true _ ▸ unsettled)
    | stopSettles =>
      simp only [redriveLoopStep] at moved
      split at moved
      · rename_i was done
        exact Option.some.inj moved ▸ .settled was done
      · exact nomatch moved
    | crash => exact Option.some.inj moved ▸ .crashed run

theorem ConsumeUntilDone.Sound.delivered {loop : ConsumeUntilDone} (sound : loop.Sound)
    (goes : loop.done = false) : loop.resetIdleTimer.Sound :=
  .resetIdleTimer sound.held goes (by rw [sound.stops, goes]; rfl)

/-- The loop ends at work on no record or goes on at work. -/
theorem RedriveRun.Sound.ended {run : RedriveRun} (sound : run.Sound) {loop : ConsumeUntilDone}
    (loopSound : loop.Sound) (done : loop.done = true)
    (unsettled : run.session.phase.isSettled = false) : RedriveRun.Sound { run with loop } where
  loop := loopSound
  working := sound.working
  goes := fun goes => absurd (done.symm.trans goes) Bool.noConfusion
  limit := sound.limit
  returned reason phase := by
    have phase : run.session.phase = .returned reason := phase
    rw [phase] at unsettled
    exact nomatch unsettled

theorem redriveLoopStep_sound {topics : MessageTopics} {action : RedriveLoopAction}
    {run? : Option RedriveRun} {result : RedriveRun × MessageTopics}
    (sound : ∀ run, run? = some run → run.Sound)
    (moved : redriveLoopStep topics action run? = some result) : result.1.Sound := by
  cases redriveLoopStep_transition moved with
  | start input => exact .start input
  | assign partition run => exact { sound run rfl with }
  | @deliveredDry run partition offset _ was position goes =>
    have sound := sound run rfl
    obtain ⟨session, loop, stopReason⟩ := run
    obtain rfl : stopReason = .idleTimeout := sound.goes goes
    exact .payloadHandled (sound.loop.delivered goes) partition offset
  | @delivered run _ _ _ was position goes =>
    have sound := sound run rfl
    obtain ⟨session, loop, stopReason⟩ := run
    obtain rfl : stopReason = .idleTimeout := sound.goes goes
    exact .changed (sound.loop.delivered goes) rfl
  | @republished run _ _ _ _ _ was =>
    have sound := sound run rfl
    obtain ⟨session, loop, stopReason⟩ := run
    obtain rfl : stopReason = .idleTimeout := sound.working (by rw [was]; rfl)
    exact .changed sound.loop rfl
  | @notRepublished run _ _ _ _ _ was =>
    have sound := sound run rfl
    obtain ⟨session, loop, stopReason⟩ := run
    obtain rfl : stopReason = .idleTimeout := sound.working (by rw [was]; rfl)
    exact .payloadFailed sound.loop
  | @committed run partition offset was =>
    have sound := sound run rfl
    obtain ⟨session, loop, stopReason⟩ := run
    obtain rfl : stopReason = .idleTimeout := sound.working (by rw [was]; rfl)
    exact .payloadHandled sound.loop partition offset
  | @notCommitted run _ _ _ was =>
    have sound := sound run rfl
    obtain ⟨session, loop, stopReason⟩ := run
    obtain rfl : stopReason = .idleTimeout := sound.working (by rw [was]; rfl)
    exact .payloadFailed sound.loop
  | @idle run timer unsettled armed =>
    have sound := sound run rfl
    exact sound.ended (sound.loop.fired armed) (ConsumeUntilDone.done_finish _ _) unsettled
  | @runRejected run error unsettled =>
    have sound := sound run rfl
    exact sound.ended (sound.loop.finish error) (ConsumeUntilDone.done_finish _ _) unsettled
  | @settled run was done =>
    have sound := sound run rfl
    refine ⟨sound.loop, fun working => ?_, sound.goes, sound.limit, fun reason phase => ?_⟩
    · dsimp only at working
      split at working
      · exact nomatch working
      · exact nomatch working
    · dsimp only at phase
      split at phase
      · exact nomatch phase
      · exact ⟨done, (RedrivePhase.returned.inj phase).symm⟩
  | crashed run =>
    have sound := sound run rfl
    exact {
      loop := sound.loop
      working := fun working => nomatch working
      goes := sound.goes
      limit := sound.limit
      returned := fun _ phase => nomatch phase }

/-! ### Runs among other producers -/

/-- The two topics and the runs started so far, with their loops. -/
structure LoopedRedriveState (Session : Type) where
  topics : MessageTopics
  runs : Session → Option RedriveRun

def LoopedRedriveState.initial : LoopedRedriveState Session where
  topics := { main := .empty, dlq := .empty }
  runs _ := none

inductive LoopedRedriveLabel (Session : Type)
  | appendMain (partition : Nat) (record : KafkaRecord)
  | appendDlq (partition : Nat) (record : KafkaRecord)
  | redrive (session : Session) (action : RedriveLoopAction)

section Steps

variable [DecidableEq Session]

def loopedRedriveStep (state : LoopedRedriveState Session) :
    LoopedRedriveLabel Session → Option (LoopedRedriveState Session)
  | .appendMain partition record =>
    some { state with
      topics := { state.topics with main := state.topics.main.append partition record } }
  | .appendDlq partition record =>
    some { state with
      topics := { state.topics with dlq := state.topics.dlq.append partition record } }
  | .redrive session action =>
    (redriveLoopStep state.topics action (state.runs session)).map fun result =>
      { runs := Function.update state.runs session (some result.1), topics := result.2 }

/-- Every run keeps what the loop keeps. -/
def SoundLoops (state : LoopedRedriveState Session) : Prop :=
  ∀ session run, state.runs session = some run → run.Sound

theorem loopedRedriveStep_sound {state next : LoopedRedriveState Session}
    {label : LoopedRedriveLabel Session} (sound : SoundLoops state)
    (moved : loopedRedriveStep state label = some next) : SoundLoops next := by
  cases label with
  | appendMain partition record => exact Option.some.inj moved ▸ sound
  | appendDlq partition record => exact Option.some.inj moved ▸ sound
  | redrive session action =>
    obtain ⟨result, stepped, rfl⟩ := Option.map_eq_some_iff.mp moved
    have later := redriveLoopStep_sound (sound session) stepped
    intro other run stored
    have stored : Function.update state.runs session (some result.1) other = some run := stored
    by_cases same : other = session
    · rw [same, Function.update_self, Option.some_inj] at stored
      exact stored ▸ later
    · rw [Function.update_of_ne same] at stored
      exact sound other run stored

omit [DecidableEq Session] in
theorem soundLoops_initial : SoundLoops (.initial : LoopedRedriveState Session) :=
  fun _ _ stored => nomatch stored

end Steps

/-! ### How the redrive sees a run -/

/-- Where a run is that waits for `stop` once its loop has ended. -/
def RedriveRun.seenPhase (run : RedriveRun) : RedrivePhase :=
  match run.session.phase, run.loop.done with
  | .polling, true => if run.loop.failed then .rejected else .returned run.stopReason
  | phase, _ => phase

def RedriveRun.seen (run : RedriveRun) : RedriveSession :=
  { run.session with phase := run.seenPhase }

theorem seen_goes {run : RedriveRun} (goes : run.loop.done = false) : run.seen = run.session := by
  have phase : run.seenPhase = run.session.phase := by
    unfold RedriveRun.seenPhase
    rw [goes]
    split
    · rename_i done
      exact absurd done Bool.noConfusion
    · rfl
  rw [RedriveRun.seen, phase]

theorem seen_of_ne_polling {run : RedriveRun} (elsewhere : run.session.phase ≠ .polling) :
    run.seen = run.session := by
  have phase : run.seenPhase = run.session.phase := by
    unfold RedriveRun.seenPhase
    split
    · rename_i polling _
      exact absurd polling elsewhere
    · rfl
  rw [RedriveRun.seen, phase]

theorem seen_done {run : RedriveRun} (polling : run.session.phase = .polling)
    (done : run.loop.done = true) :
    run.seen = { run.session with
      phase := if run.loop.failed then .rejected else .returned run.stopReason } := by
  rw [RedriveRun.seen, RedriveRun.seenPhase, polling, done]

/-- Steps of one run lead from where it is to a session, and from topics to topics. -/
inductive RedriveLeads : Option RedriveSession → MessageTopics → RedriveSession → MessageTopics →
    Prop
  | refl (session : RedriveSession) (topics : MessageTopics) :
      RedriveLeads (some session) topics session topics
  | step {session? : Option RedriveSession} {topics between later : MessageTopics}
      {middle session : RedriveSession} (action : RedriveAction)
      (moved : redriveStep topics action session? = some (middle, between))
      (rest : RedriveLeads (some middle) between session later) :
      RedriveLeads session? topics session later

theorem RedriveLeads.one {session? : Option RedriveSession} {topics later : MessageTopics}
    {session : RedriveSession} (action : RedriveAction)
    (moved : redriveStep topics action session? = some (session, later)) :
    RedriveLeads session? topics session later :=
  .step action moved (.refl session later)

theorem RedriveLeads.fail (session : RedriveSession) (topics : MessageTopics) :
    RedriveLeads (some session) topics { session with phase := .rejected } topics :=
  .one .fail rfl

/-- The loop may have ended while the run was at work on the record that it is done with now. -/
theorem leads_polling {session : RedriveSession} (polling : session.phase = .polling)
    (loop : ConsumeUntilDone) (topics : MessageTopics) :
    RedriveLeads (some session) topics
      (RedriveRun.seen { session, loop, stopReason := .idleTimeout }) topics := by
  cases done : loop.done with
  | false =>
    rw [seen_goes done]
    exact .refl session topics
  | true =>
    rw [seen_done polling done]
    dsimp only
    split
    · exact .fail session topics
    · refine .one .idle ?_
      simp only [redriveStep, polling]

/-- `handlePayload` resolved while the loop may have ended. -/
theorem leads_handled (session : RedriveSession) (loop : ConsumeUntilDone) (topics : MessageTopics)
    (partition offset : Nat) :
    RedriveLeads (some (session.handled partition offset)) topics
      (RedriveRun.payloadHandled partition offset
        { session, loop, stopReason := .idleTimeout }).seen topics := by
  unfold RedriveSession.handled RedriveRun.payloadHandled
  dsimp only
  split
  · rw [seen_done rfl (ConsumeUntilDone.done_finish _ _)]
    dsimp only
    split
    · exact .fail _ topics
    · exact .refl _ topics
  · exact leads_polling rfl loop topics

theorem leads_failed (session : RedriveSession) (loop : ConsumeUntilDone) (topics : MessageTopics) :
    RedriveLeads (some { session with phase := .polling }) topics
      (RedriveRun.payloadFailed { session, loop, stopReason := .idleTimeout }).seen topics :=
  leads_polling rfl loop topics

/-- The loop ends, which a run at work does not see yet. -/
theorem RedriveRun.Sound.leads_ended {run : RedriveRun} (sound : run.Sound)
    (unsettled : run.session.phase.isSettled = false) {loop : ConsumeUntilDone}
    (same : run.loop.done = true → loop = run.loop) (topics : MessageTopics) :
    RedriveLeads (some run.seen) topics (RedriveRun.seen { run with loop }) topics := by
  cases done : run.loop.done with
  | true =>
    rw [same done]
    exact .refl _ topics
  | false =>
    rw [seen_goes done]
    obtain ⟨session, other, stopReason⟩ := run
    obtain rfl : stopReason = .idleTimeout := sound.goes done
    cases phase : session.phase with
    | polling => exact leads_polling phase loop topics
    | returned reason =>
      rw [show session.phase = _ from phase] at unsettled
      exact nomatch unsettled
    | rejected =>
      rw [show session.phase = _ from phase] at unsettled
      exact nomatch unsettled
    | republishing partition offset record =>
      rw [seen_of_ne_polling (by rw [phase]; exact nofun)]
      exact .refl session topics
    | committing partition offset =>
      rw [seen_of_ne_polling (by rw [phase]; exact nofun)]
      exact .refl session topics

/-- What a step of the loop does is seen as steps of the redrive. -/
theorem redriveLoopStep_leads {topics : MessageTopics} {action : RedriveLoopAction}
    {run? : Option RedriveRun} {result : RedriveRun × MessageTopics}
    (sound : ∀ run, run? = some run → run.Sound)
    (moved : redriveLoopStep topics action run? = some result) :
    RedriveLeads (run?.map RedriveRun.seen) topics result.1.seen result.2 := by
  cases redriveLoopStep_transition moved with
  | start input => exact .one (.start input) rfl
  | assign partition run => exact .one (.assign partition) rfl
  | @deliveredDry run partition offset record was position goes found dry =>
    have sound := sound run rfl
    rw [Option.map_some, seen_goes goes]
    obtain ⟨session, loop, stopReason⟩ := run
    obtain rfl : stopReason = .idleTimeout := sound.goes goes
    dsimp only at was position dry
    refine .step (.consume partition) ?_ (leads_handled _ _ topics partition offset)
    simp only [redriveStep, was, position, found, dry, Option.map_some, if_true]
  | @delivered run partition offset record was position goes found confirmed =>
    rw [Option.map_some, seen_goes goes]
    refine .one (.consume partition) ?_
    simp only [redriveStep, was, position, found, confirmed, Option.map_some, Bool.false_eq_true,
      if_false]
    rfl
  | @republished run partition offset record mainPartition outcome was acknowledged =>
    rw [Option.map_some, seen_of_ne_polling (by rw [was]; simp)]
    refine .one (.republish mainPartition outcome) ?_
    simp only [redriveStep, was, acknowledged, if_true]
    rfl
  | @notRepublished run partition offset record mainPartition outcome was refused =>
    have sound := sound run rfl
    rw [Option.map_some, seen_of_ne_polling (by rw [was]; simp)]
    obtain ⟨session, loop, stopReason⟩ := run
    obtain rfl : stopReason = .idleTimeout := sound.working (by rw [was]; rfl)
    dsimp only at was
    refine .step (.republish mainPartition outcome) ?_ (leads_failed session loop _)
    simp only [redriveStep, was, refused, Bool.false_eq_true, if_false]
  | @committed run partition offset was =>
    have sound := sound run rfl
    rw [Option.map_some, seen_of_ne_polling (by rw [was]; simp)]
    obtain ⟨session, loop, stopReason⟩ := run
    obtain rfl : stopReason = .idleTimeout := sound.working (by rw [was]; rfl)
    dsimp only at was
    refine .step (.commitOffsets .acknowledged) ?_ (leads_handled _ loop _ partition offset)
    simp only [redriveStep, was]
  | @notCommitted run partition offset applied was =>
    have sound := sound run rfl
    rw [Option.map_some, seen_of_ne_polling (by rw [was]; simp)]
    obtain ⟨session, loop, stopReason⟩ := run
    obtain rfl : stopReason = .idleTimeout := sound.working (by rw [was]; rfl)
    dsimp only at was
    refine .step (.commitOffsets (.rejected applied)) ?_ (leads_failed session loop _)
    simp only [redriveStep, was]
  | @idle run timer unsettled armed =>
    have sound := sound run rfl
    refine sound.leads_ended unsettled (fun done => ?_) topics
    exact absurd armed (sound.loop.quiet done timer)
  | @runRejected run error unsettled =>
    refine (sound run rfl).leads_ended unsettled (fun done => ?_) topics
    rw [ConsumeUntilDone.finish, if_pos done]
  | @settled run was done =>
    -- What the run was seen as while it waited for `stop` is what it is now.
    have seen : RedriveRun.seen { run with
        session := { run.session with
          phase := if run.loop.failed then .rejected else .returned run.stopReason } } =
        run.seen := by
      rw [seen_done was done]
      refine seen_of_ne_polling ?_
      dsimp only
      split
      · simp
      · simp
    show RedriveLeads _ topics (RedriveRun.seen _) topics
    rw [seen]
    exact .refl run.seen topics
  | crashed run => exact .fail run.seen topics

def LoopedRedriveState.seen (state : LoopedRedriveState Session) : RedriveState Session where
  topics := state.topics
  sessions session := (state.runs session).map RedriveRun.seen

section Refinement

variable [DecidableEq Session]

/-- What one run does alone, it does among the others. -/
theorem RedriveLeads.run {session? : Option RedriveSession} {topics later : MessageTopics}
    {run : RedriveSession} (leads : RedriveLeads session? topics run later)
    (state : RedriveState Session) (session : Session) (stored : state.sessions session = session?)
    (same : state.topics = topics) :
    ∃ labels, Transition.run dlqRedriveStep state labels =
      some { topics := later, sessions := Function.update state.sessions session (some run) } := by
  induction leads generalizing state with
  | refl run topics =>
    refine ⟨[], ?_⟩
    rw [Transition.run_nil, ← stored, Function.update_eq_self, ← same]
  | @step session? topics between later middle run action moved rest inductionHypothesis =>
    have stepped : dlqRedriveStep state (.redrive session action) =
        some { topics := between,
               sessions := Function.update state.sessions session (some middle) } := by
      rw [dlqRedriveStep, stored, same, moved, Option.map_some]
    obtain ⟨labels, reached⟩ := inductionHypothesis
      { topics := between, sessions := Function.update state.sessions session (some middle) }
      (Function.update_self _ _ _) rfl
    refine ⟨.redrive session action :: labels, ?_⟩
    rw [Transition.run, stepped, Option.bind_some, reached, Function.update_idem]

theorem loopedRedriveStep_seen {state next : LoopedRedriveState Session}
    {label : LoopedRedriveLabel Session} (sound : SoundLoops state)
    (moved : loopedRedriveStep state label = some next) :
    ∃ labels, Transition.run dlqRedriveStep state.seen labels = some next.seen := by
  cases label with
  | appendMain partition record =>
    refine ⟨[.appendMain partition record], ?_⟩
    rw [← Option.some.inj moved]
    rfl
  | appendDlq partition record =>
    refine ⟨[.appendDlq partition record], ?_⟩
    rw [← Option.some.inj moved]
    rfl
  | redrive session action =>
    obtain ⟨result, stepped, rfl⟩ := Option.map_eq_some_iff.mp moved
    obtain ⟨labels, reached⟩ := (redriveLoopStep_leads (sound session) stepped).run
      state.seen session rfl rfl
    refine ⟨labels, reached.trans ?_⟩
    rw [Option.some_inj, LoopedRedriveState.seen, LoopedRedriveState.seen, RedriveState.mk.injEq]
    refine ⟨rfl, ?_⟩
    funext other
    dsimp only
    by_cases same : other = session
    · rw [same, Function.update_self, Function.update_self, Option.map_some]
    · rw [Function.update_of_ne same, Function.update_of_ne same]

def SeenAs (state : LoopedRedriveState Session) (seen : RedriveState Session) : Prop :=
  seen = state.seen ∧ SoundLoops state

theorem loopedRedriveStep_simulated (state : LoopedRedriveState Session)
    (label : LoopedRedriveLabel Session) (next : LoopedRedriveState Session)
    (seen : RedriveState Session) (related : SeenAs state seen)
    (moved : loopedRedriveStep state label = some next) :
    ∃ labels later, Transition.run dlqRedriveStep seen labels = some later ∧ SeenAs next later := by
  obtain ⟨rfl, sound⟩ := related
  obtain ⟨labels, reached⟩ := loopedRedriveStep_seen sound moved
  exact ⟨labels, next.seen, reached, rfl, loopedRedriveStep_sound sound moved⟩

/-- Every run of the loop is seen as a run of the redrive, with the same topics. -/
theorem redrive_loop_refines {labels : List (LoopedRedriveLabel Session)}
    {state : LoopedRedriveState Session}
    (reached : Transition.run loopedRedriveStep .initial labels = some state) :
    ∃ redriveLabels, Transition.run dlqRedriveStep .initial redriveLabels = some state.seen := by
  obtain ⟨redriveLabels, seen, simulated, isSeen, _⟩ :=
    Transition.run_simulated loopedRedriveStep_simulated ⟨rfl, soundLoops_initial⟩ reached
  exact ⟨redriveLabels, simulated.trans (congrArg some isSeen)⟩

/-- A run whose idle timer fires while its only record is being republished. -/
def firesAtWork : List (LoopedRedriveLabel Bool) :=
  [.appendDlq 0 exampleRecord, .redrive true (.start ⟨false, 1⟩), .redrive true (.assign 0),
    .redrive true (.eachMessage 0), .redrive true (.idle 1),
    .redrive true (.republish 2 .acknowledged), .redrive true (.commitOffsets .acknowledged),
    .redrive true .stopSettles]

theorem redrive_loop_refines_at_work :
    ∃ state, Transition.run loopedRedriveStep .initial firesAtWork = some state ∧
      ∃ redriveLabels, Transition.run dlqRedriveStep .initial redriveLabels = some state.seen := by
  have runs : (Transition.run loopedRedriveStep .initial firesAtWork).isSome = true := by
    decide +kernel
  obtain ⟨state, reached⟩ := Option.isSome_iff_exists.mp runs
  exact ⟨state, reached, redrive_loop_refines reached⟩

end Refinement

/-! ### How a run ends -/

/-- The call stops its consumer once and leaves no timer behind, the idle timer runs until then, and
a run that says it reached its limit did. -/
structure RedriveRun.StopsOnce (run : RedriveRun) : Prop where
  stops : run.loop.stops = if run.loop.done then 1 else 0
  timer : run.loop.done = false → ∃! timer, run.loop.timers.armed timer = some ()
  noTimer : run.loop.done = true → ∀ timer, run.loop.timers.armed timer = none
  returned : ∀ reason, run.session.phase = .returned reason →
    run.loop.done = true ∧
      (reason = .limitReached → run.session.input.limit ≤ run.session.consumedCount)

theorem RedriveRun.Sound.stopsOnce {run : RedriveRun} (sound : run.Sound) : run.StopsOnce where
  stops := sound.loop.stops
  timer goes := by
    obtain ⟨timer, armed⟩ := sound.loop.armed goes
    exact ⟨timer, armed, fun other otherArmed => sound.loop.held.unique otherArmed armed⟩
  noTimer done timer := by
    cases armed : run.loop.timers.armed timer with
    | none => rfl
    | some callback => exact absurd armed (sound.loop.quiet done timer)
  returned reason phase := by
    obtain ⟨done, rfl⟩ := sound.returned reason phase
    exact ⟨done, sound.limit⟩

/-- In every state of every run, whatever fires while a record is at work. -/
theorem consume_until_done_stops_once [DecidableEq Session]
    {labels : List (LoopedRedriveLabel Session)} {state : LoopedRedriveState Session}
    (reached : Transition.run loopedRedriveStep .initial labels = some state) (session : Session)
    (run : RedriveRun) (stored : state.runs session = some run) : run.StopsOnce :=
  (Transition.run_invariant (fun _ _ _ sound moved => loopedRedriveStep_sound sound moved)
    soundLoops_initial reached session run stored).stopsOnce

theorem consume_until_done_stops_once_at_work :
    ∃ state run, Transition.run loopedRedriveStep .initial firesAtWork = some state ∧
      state.runs true = some run ∧ run.loop.stops = 1 ∧ run.StopsOnce := by
  have runs : (Transition.run loopedRedriveStep .initial firesAtWork).any (fun state =>
      (state.runs true).any fun run => decide (run.loop.stops = 1)) = true := by decide +kernel
  obtain ⟨state, reached, stops⟩ := (Option.any_eq_true _ _).mp runs
  obtain ⟨run, stored, stops⟩ := (Option.any_eq_true _ _).mp stops
  exact ⟨state, run, reached, stored, of_decide_eq_true stops,
    consume_until_done_stops_once reached true run stored⟩

end MessageManagement
