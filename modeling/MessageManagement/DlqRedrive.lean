/-
This file proves what the redrive of the dead-letter topic may commit: no record
that it has not put back on the main topic, whatever fails and wherever a run
crashes, and nothing in a dry run.

The limit of a run is another matter. It is compared after `commitOffsets`, so a
commit that is refused skips the comparison, and the record is republished once
more when it is delivered again.
-/

import MessageManagement.Pipeline

namespace MessageManagement

variable {Session : Type}

/-! ### What a run has behind it -/

/-- What a run of the redrive has behind it is taken care of, unless it is a dry run. -/
structure RedriveSession.Sound (dlq : Topic KafkaRecord) (session : RedriveSession) : Prop where
  position : session.input.dryRun = false → ∀ partition offset,
    session.position partition = some offset → dlq.SettledBelow partition offset
  republishing : ∀ partition offset record,
    session.phase = .republishing partition offset record →
      dlq.read partition offset = some record ∧ dlq.SettledBelow partition offset
  committing : ∀ partition offset, session.phase = .committing partition offset →
    dlq.SettledBelow partition (offset + 1)

theorem RedriveSession.Sound.grows {dlq later : Topic KafkaRecord} {session : RedriveSession}
    (sound : session.Sound dlq) (grows : dlq.Grows later) : session.Sound later where
  position confirmed partition offset stored :=
    (sound.position confirmed partition offset stored).grows grows
  republishing partition offset record phase :=
    ⟨grows.read _ _ _ (sound.republishing partition offset record phase).1,
      (sound.republishing partition offset record phase).2.grows grows⟩
  committing partition offset phase := (sound.committing partition offset phase).grows grows

/-- A run that is not at work on a record is sound if its positions are. -/
theorem RedriveSession.Sound.idle {dlq : Topic KafkaRecord} {session : RedriveSession}
    (position : session.input.dryRun = false → ∀ partition offset,
      session.position partition = some offset → dlq.SettledBelow partition offset)
    (idle : session.phase.isIdle = true) : session.Sound dlq where
  position := position
  republishing partition offset record phase := by
    rw [phase] at idle
    exact nomatch idle
  committing partition offset phase := by
    rw [phase] at idle
    exact nomatch idle

/-- The position of a partition moves to an offset that everything below is taken care of. -/
theorem settledBelow_update {dlq : Topic KafkaRecord} {session : RedriveSession}
    (sound : session.Sound dlq) {partition offset : Nat}
    (settled : session.input.dryRun = false → dlq.SettledBelow partition offset)
    (confirmed : session.input.dryRun = false) (other found : Nat)
    (stored : Function.update session.position partition (some offset) other = some found) :
    dlq.SettledBelow other found := by
  by_cases same : other = partition
  · rw [same, Function.update_self, Option.some_inj] at stored
    rw [same, ← stored]
    exact settled confirmed
  · rw [Function.update_of_ne same] at stored
    exact sound.position confirmed other found stored

theorem isIdle_handled (session : RedriveSession) (partition offset : Nat) :
    (session.handled partition offset).phase.isIdle = true := by
  unfold RedriveSession.handled
  dsimp only
  split
  · rfl
  · rfl

theorem RedriveSession.Sound.handled {dlq : Topic KafkaRecord} {session : RedriveSession}
    (sound : session.Sound dlq) {partition offset : Nat}
    (settled : session.input.dryRun = false → dlq.SettledBelow partition (offset + 1)) :
    (session.handled partition offset).Sound dlq :=
  .idle (settledBelow_update sound settled) (isIdle_handled session partition offset)

/-! ### What a step of a redrive does -/

/-- What becomes of the topics: a record of the dead-letter topic is sent to the main topic, and
settled once the send is acknowledged, or the group passes what is settled. -/
inductive RedriveMove (topics : MessageTopics) : MessageTopics → Prop
  | kept : RedriveMove topics topics
  | sent (partition offset record mainPartition) (outcome : SendOutcome)
      (found : topics.dlq.read partition offset = some record) :
      RedriveMove topics (topics.send MESSAGE_CREATED_TOPIC mainPartition record outcome)
  | republished (partition offset record mainPartition) (outcome : SendOutcome)
      (found : topics.dlq.read partition offset = some record)
      (acknowledged : outcome.isAcknowledged = true) :
      RedriveMove topics
        { topics.send MESSAGE_CREATED_TOPIC mainPartition record outcome with
          dlq := (topics.send MESSAGE_CREATED_TOPIC mainPartition record outcome).dlq.settle
            partition offset }
  | committed (partition offset) (settled : topics.dlq.SettledBelow partition offset) :
      RedriveMove topics { topics with dlq := topics.dlq.pass partition offset }

theorem dlq_send_main (topics : MessageTopics) (partition : Nat) (record : KafkaRecord)
    (outcome : SendOutcome) :
    (topics.send MESSAGE_CREATED_TOPIC partition record outcome).dlq = topics.dlq := by
  unfold MessageTopics.send
  rw [if_pos rfl]
  split
  · rfl
  · rfl

theorem main_send_main (topics : MessageTopics) (partition : Nat) (record : KafkaRecord)
    (outcome : SendOutcome) :
    (topics.send MESSAGE_CREATED_TOPIC partition record outcome).main =
      if outcome.appends then topics.main.append partition record else topics.main := by
  unfold MessageTopics.send
  rw [if_pos rfl]
  split
  · rfl
  · rfl

/-- An acknowledged send puts the record where nobody has taken care of it. -/
theorem unsettled_send_main {selects : KafkaRecord → Prop} {record : KafkaRecord}
    (selected : selects record) (topics : MessageTopics) (partition : Nat) {outcome : SendOutcome}
    (acknowledged : outcome.isAcknowledged = true) :
    (topics.send MESSAGE_CREATED_TOPIC partition record outcome).main.Unsettled selects := by
  cases outcome with
  | acknowledged => exact Topic.unsettled_append selected partition
  | rejected appended error => exact nomatch acknowledged

theorem RedriveMove.grows_dlq {topics later : MessageTopics} (move : RedriveMove topics later) :
    topics.dlq.Grows later.dlq := by
  cases move with
  | kept => exact .refl _
  | sent => exact dlq_send_main _ _ _ _ ▸ .refl _
  | republished partition offset =>
    rw [dlq_send_main]
    exact Topic.grows_settle _ partition offset
  | committed partition offset => exact Topic.grows_pass _ partition offset

theorem RedriveMove.grows_main {topics later : MessageTopics} (move : RedriveMove topics later) :
    topics.main.Grows later.main := by
  have send : ∀ partition record outcome, topics.main.Grows
      (topics.send MESSAGE_CREATED_TOPIC partition record outcome).main := by
    intro partition record outcome
    rw [main_send_main]
    split
    · exact Topic.grows_append _ _ _
    · exact .refl _
  cases move with
  | kept => exact .refl _
  | sent => exact send _ _ _
  | republished => exact send _ _ _
  | committed => exact .refl _

theorem RedriveMove.passesSettled {topics later : MessageTopics} (move : RedriveMove topics later)
    (passes : topics.dlq.PassesSettled) : later.dlq.PassesSettled := by
  cases move with
  | kept => exact passes
  | sent =>
    rw [dlq_send_main]
    exact passes
  | republished partition offset =>
    rw [dlq_send_main]
    exact passes.settle partition offset
  | committed partition offset settled => exact passes.pass settled

/-- What a step of a run does, by its action: the run that it needs and what it leaves. -/
inductive RedriveTransition (topics : MessageTopics) :
    RedriveAction → Option RedriveSession → RedriveSession × MessageTopics → Prop
  | start input : RedriveTransition topics (.start input) none (.start input, topics)
  | assign partition session :
      RedriveTransition topics (.assign partition) (some session)
        ({ session with
          position :=
            Function.update session.position partition (some (topics.dlq.passed partition)) },
          topics)
  | consumedDry {session partition offset record} (was : session.phase = .polling)
      (position : session.position partition = some offset)
      (found : topics.dlq.read partition offset = some record)
      (dry : session.input.dryRun = true) :
      RedriveTransition topics (.consume partition) (some session)
        (RedriveSession.handled partition offset
          { session with consumedCount := session.consumedCount + 1 }, topics)
  | consumed {session partition offset record} (was : session.phase = .polling)
      (position : session.position partition = some offset)
      (found : topics.dlq.read partition offset = some record)
      (confirmed : session.input.dryRun = false) :
      RedriveTransition topics (.consume partition) (some session)
        ({ session with
          consumedCount := session.consumedCount + 1
          phase := .republishing partition offset record }, topics)
  | republished {session partition offset record} (mainPartition) {outcome : SendOutcome}
      (was : session.phase = .republishing partition offset record)
      (acknowledged : outcome.isAcknowledged = true) :
      RedriveTransition topics (.republish mainPartition outcome) (some session)
        ({ session with
          phase := .committing partition offset
          republishedCount := session.republishedCount + 1 },
          { topics.send MESSAGE_CREATED_TOPIC mainPartition record outcome with
            dlq := (topics.send MESSAGE_CREATED_TOPIC mainPartition record outcome).dlq.settle
              partition offset })
  | notRepublished {session partition offset record} (mainPartition) {outcome : SendOutcome}
      (was : session.phase = .republishing partition offset record)
      (refused : outcome.isAcknowledged = false) :
      RedriveTransition topics (.republish mainPartition outcome) (some session)
        ({ session with phase := .polling },
          topics.send MESSAGE_CREATED_TOPIC mainPartition record outcome)
  | committed {session partition offset} (was : session.phase = .committing partition offset) :
      RedriveTransition topics (.commitOffsets .acknowledged) (some session)
        (RedriveSession.handled partition offset
          { session with committedCount := session.committedCount + 1 },
          { topics with dlq := topics.dlq.pass partition (offset + 1) })
  | notCommitted {session partition offset} (applied)
      (was : session.phase = .committing partition offset) :
      RedriveTransition topics (.commitOffsets (.rejected applied)) (some session)
        ({ session with phase := .polling },
          if applied then { topics with dlq := topics.dlq.pass partition (offset + 1) } else topics)
  | idle {session} (was : session.phase = .polling) :
      RedriveTransition topics .idle (some session)
        ({ session with phase := .returned .idleTimeout }, topics)
  | fail session :
      RedriveTransition topics .fail (some session) ({ session with phase := .rejected }, topics)

theorem redriveStep_transition {topics : MessageTopics} {action : RedriveAction}
    {session? : Option RedriveSession} {result : RedriveSession × MessageTopics}
    (moved : redriveStep topics action session? = some result) :
    RedriveTransition topics action session? result := by
  cases session? with
  | none =>
    cases action with
    | start input => exact Option.some.inj moved ▸ .start input
    | _ => exact nomatch moved
  | some session =>
    cases action with
    | start input => exact nomatch moved
    | assign partition => exact Option.some.inj moved ▸ .assign partition session
    | consume partition =>
      simp only [redriveStep] at moved
      split at moved
      · rename_i was position
        obtain ⟨record, found, isResult⟩ := Option.map_eq_some_iff.mp moved
        rw [← isResult]
        split
        · rename_i dry
          exact .consumedDry was position found dry
        · rename_i confirmed
          exact .consumed was position found (Bool.not_eq_true _ ▸ confirmed)
      · exact nomatch moved
    | republish mainPartition outcome =>
      simp only [redriveStep] at moved
      split at moved
      · rename_i was
        split at moved
        · rename_i acknowledged
          exact Option.some.inj moved ▸ .republished mainPartition was acknowledged
        · rename_i refused
          exact Option.some.inj moved ▸
            .notRepublished mainPartition was (Bool.not_eq_true _ ▸ refused)
      · exact nomatch moved
    | commitOffsets outcome =>
      simp only [redriveStep] at moved
      split at moved
      · rename_i was
        split at moved
        · exact Option.some.inj moved ▸ .committed was
        · exact Option.some.inj moved ▸ .notCommitted _ was
      · exact nomatch moved
    | idle =>
      simp only [redriveStep] at moved
      split at moved
      · rename_i was
        exact Option.some.inj moved ▸ .idle was
      · exact nomatch moved
    | fail => exact Option.some.inj moved ▸ .fail session

theorem redriveStep_move {topics : MessageTopics} {action : RedriveAction}
    {session? : Option RedriveSession} {result : RedriveSession × MessageTopics}
    (passes : topics.dlq.PassesSettled)
    (sound : ∀ session, session? = some session → session.Sound topics.dlq)
    (moved : redriveStep topics action session? = some result) :
    RedriveMove topics result.2 ∧ result.1.Sound result.2.dlq := by
  cases redriveStep_transition moved with
  | start input => exact ⟨.kept, .idle (fun _ _ _ stored => nomatch stored) rfl⟩
  | assign partition session =>
    have sound := sound session rfl
    exact ⟨.kept, { sound with position := settledBelow_update sound fun _ => passes partition }⟩
  | @consumedDry session partition offset record was position found dry =>
    have sound := sound session rfl
    have counted : RedriveSession.Sound topics.dlq
        { session with consumedCount := session.consumedCount + 1 } :=
      ⟨sound.position, sound.republishing, sound.committing⟩
    exact ⟨.kept, counted.handled fun confirmed =>
      absurd (dry.symm.trans confirmed) Bool.noConfusion⟩
  | @consumed session partition offset record was position found confirmed =>
    have sound := sound session rfl
    refine ⟨.kept, sound.position, ?_, nofun⟩
    intro other position' kept same
    rw [RedrivePhase.republishing.injEq] at same
    obtain ⟨rfl, rfl, rfl⟩ := same
    exact ⟨found, sound.position confirmed partition offset position⟩
  | @republished session partition offset record mainPartition outcome was acknowledged =>
    have sound := sound session rfl
    obtain ⟨found, below⟩ := sound.republishing partition offset record was
    have move := RedriveMove.republished partition offset record mainPartition outcome found
      acknowledged
    refine ⟨move, (sound.grows move.grows_dlq).position, nofun, ?_⟩
    intro other position same
    rw [RedrivePhase.committing.injEq] at same
    obtain ⟨rfl, rfl⟩ := same
    show ((topics.send MESSAGE_CREATED_TOPIC mainPartition record outcome).dlq.settle
      partition offset).SettledBelow partition (offset + 1)
    rw [dlq_send_main]
    exact below.succ found
  | @notRepublished session partition offset record mainPartition outcome was _ =>
    have sound := sound session rfl
    have found := (sound.republishing partition offset record was).1
    have move := RedriveMove.sent partition offset record mainPartition outcome found
    exact ⟨move, .idle (sound.grows move.grows_dlq).position rfl⟩
  | @committed session partition offset was =>
    have sound := sound session rfl
    have settled := sound.committing partition offset was
    have move := RedriveMove.committed partition (offset + 1) settled
    have later := sound.grows move.grows_dlq
    refine ⟨move, RedriveSession.Sound.handled ?_ fun _ => settled.grows move.grows_dlq⟩
    exact ⟨later.position, later.republishing, later.committing⟩
  | @notCommitted session partition offset applied was =>
    have sound := sound session rfl
    have move := RedriveMove.committed partition (offset + 1)
      (sound.committing partition offset was)
    cases applied with
    | true => exact ⟨move, .idle (sound.grows move.grows_dlq).position rfl⟩
    | false => exact ⟨.kept, .idle sound.position rfl⟩
  | @idle session _ => exact ⟨.kept, .idle (sound session rfl).position rfl⟩
  | fail session => exact ⟨.kept, .idle (sound session rfl).position rfl⟩

/-! ### Runs among other producers -/

/-- The two topics and the runs started so far. -/
structure RedriveState (Session : Type) where
  topics : MessageTopics
  sessions : Session → Option RedriveSession

def RedriveState.initial : RedriveState Session where
  topics := { main := .empty, dlq := .empty }
  sessions _ := none

/-- Any producer may append to either topic at any time; `redrive` is a step of a run. -/
inductive RedriveLabel (Session : Type)
  | appendMain (partition : Nat) (record : KafkaRecord)
  | appendDlq (partition : Nat) (record : KafkaRecord)
  | redrive (session : Session) (action : RedriveAction)

section Steps

variable [DecidableEq Session]

def dlqRedriveStep (state : RedriveState Session) :
    RedriveLabel Session → Option (RedriveState Session)
  | .appendMain partition record =>
    some { state with
      topics := { state.topics with main := state.topics.main.append partition record } }
  | .appendDlq partition record =>
    some { state with
      topics := { state.topics with dlq := state.topics.dlq.append partition record } }
  | .redrive session action =>
    (redriveStep state.topics action (state.sessions session)).map fun result =>
      { sessions := Function.update state.sessions session (some result.1), topics := result.2 }

/-- The offset that `commitOffsets` commits for a record, both as the decimal text that KafkaJS
hands out and takes. -/
def nextOffset (offset : JsString) : JsString := decimal (digitsValue offset + 1)

theorem nextOffset_decimal (offset : Nat) : nextOffset (decimal offset) = decimal (offset + 1) := by
  have value : digitsValue (decimal offset) = offset :=
    digitsValue_digits (Nat.lt_pow_succ_log_self (by decide) offset)
  rw [nextOffset, value]

/-! ### The counters of a run -/

/-- How the counters of a run go with where it is. -/
structure RedriveSession.Counted (session : RedriveSession) : Prop where
  committed : session.committedCount ≤ session.republishedCount
  committing : ∀ partition offset, session.phase = .committing partition offset →
    session.committedCount < session.republishedCount
  republished : session.republishedCount ≤ session.consumedCount
  republishing : ∀ partition offset record, session.phase = .republishing partition offset record →
    session.republishedCount < session.consumedCount
  dryRun : session.input.dryRun = true → session.phase.isIdle = true

/-- A run that is at work on no record need not be looked at closer. -/
theorem RedriveSession.Counted.idle {session : RedriveSession} (idle : session.phase.isIdle = true)
    (committed : session.committedCount ≤ session.republishedCount)
    (republished : session.republishedCount ≤ session.consumedCount) : session.Counted where
  committed := committed
  committing partition offset phase := by
    rw [phase] at idle
    exact nomatch idle
  republished := republished
  republishing partition offset record phase := by
    rw [phase] at idle
    exact nomatch idle
  dryRun _ := idle

theorem redriveStep_counted {topics : MessageTopics} {action : RedriveAction}
    {session? : Option RedriveSession} {result : RedriveSession × MessageTopics}
    (counted : ∀ session, session? = some session → session.Counted)
    (moved : redriveStep topics action session? = some result) : result.1.Counted := by
  cases redriveStep_transition moved with
  | start input => exact .idle rfl (le_refl _) (le_refl _)
  | assign partition session => exact { counted session rfl with }
  | @consumedDry session =>
    have counted := counted session rfl
    exact .idle (isIdle_handled _ _ _) counted.committed (Nat.le_succ_of_le counted.republished)
  | @consumed session _ _ _ _ _ _ confirmed =>
    have counted := counted session rfl
    have more := Nat.lt_succ_of_le counted.republished
    exact ⟨counted.committed, nofun, more.le, fun _ _ _ _ => more,
      fun dry => absurd (dry.symm.trans confirmed) Bool.noConfusion⟩
  | @republished session partition offset record _ _ was =>
    have counted := counted session rfl
    have fewer := counted.republishing partition offset record was
    have more := Nat.lt_succ_of_le counted.committed
    refine ⟨more.le, fun _ _ _ => more, fewer, nofun, fun dry => ?_⟩
    have idle := counted.dryRun dry
    rw [was] at idle
    exact nomatch idle
  | @notRepublished session =>
    exact .idle rfl (counted session rfl).committed (counted session rfl).republished
  | @committed session partition offset was =>
    have counted := counted session rfl
    exact .idle (isIdle_handled _ _ _) (counted.committing partition offset was)
      counted.republished
  | @notCommitted session =>
    exact .idle rfl (counted session rfl).committed (counted session rfl).republished
  | @idle session _ =>
    exact .idle rfl (counted session rfl).committed (counted session rfl).republished
  | fail session =>
    exact .idle rfl (counted session rfl).committed (counted session rfl).republished

/-- A dry run leaves the topics alone. -/
theorem redriveStep_dryRun {topics : MessageTopics} {action : RedriveAction}
    {session : RedriveSession} {result : RedriveSession × MessageTopics}
    (counted : session.Counted) (dry : session.input.dryRun = true)
    (moved : redriveStep topics action (some session) = some result) : result.2 = topics := by
  have idle := counted.dryRun dry
  cases redriveStep_transition moved with
  | assign partition => rfl
  | consumedDry => rfl
  | consumed => rfl
  | republished _ was =>
    rw [was] at idle
    exact nomatch idle
  | notRepublished _ was _ =>
    rw [was] at idle
    exact nomatch idle
  | committed was =>
    rw [was] at idle
    exact nomatch idle
  | notCommitted _ was =>
    rw [was] at idle
    exact nomatch idle
  | idle => rfl
  | fail => rfl

/-! ### The limit of a run -/

/-- The run has reached its limit and is told nothing by `handlePayload`: its commit is refused. -/
def RefusedAtLimit (state : RedriveState Session) : RedriveLabel Session → Prop
  | .redrive session (.commitOffsets (.rejected _)) =>
    ∃ run, state.sessions session = some run ∧ run.input.limit ≤ run.republishedCount
  | _ => False

/-- A run goes on only below its limit. -/
structure RedriveSession.Limited (session : RedriveSession) : Prop where
  bound : session.republishedCount ≤ session.input.limit
  polling : session.phase = .polling → session.republishedCount < session.input.limit
  republishing : ∀ partition offset record, session.phase = .republishing partition offset record →
    session.republishedCount < session.input.limit

/-- A run that handled a record goes on only if it has consumed fewer records than its limit. -/
theorem limited_handled (session : RedriveSession) (partition offset : Nat)
    (consumed : session.republishedCount ≤ session.consumedCount)
    (bound : session.republishedCount ≤ session.input.limit) :
    (session.handled partition offset).Limited := by
  refine ⟨bound, ?_, ?_⟩
  · intro phase
    unfold RedriveSession.handled at phase ⊢
    dsimp only at phase ⊢
    split at phase
    · exact nomatch phase
    · rename_i more
      exact Nat.lt_of_le_of_lt consumed (Nat.lt_of_not_le more)
  · intro other position record phase
    have idle := isIdle_handled session partition offset
    rw [phase] at idle
    exact nomatch idle

theorem RedriveSession.Limited.rest {session : RedriveSession} (bound : session.republishedCount ≤
    session.input.limit) (rests : session.phase.isIdle = true)
    (polling : session.phase = .polling → session.republishedCount < session.input.limit) :
    session.Limited where
  bound := bound
  polling := polling
  republishing partition offset record phase := by
    rw [phase] at rests
    exact nomatch rests

theorem redriveStep_limited {topics : MessageTopics} {action : RedriveAction}
    {session? : Option RedriveSession} {result : RedriveSession × MessageTopics}
    (counted : ∀ session, session? = some session → session.Counted)
    (limited : ∀ session, session? = some session → session.Limited)
    (positive : ∀ input, action = .start input → 1 ≤ input.limit)
    (commits : ∀ session applied, session? = some session →
      action = .commitOffsets (.rejected applied) →
        session.republishedCount < session.input.limit)
    (moved : redriveStep topics action session? = some result) : result.1.Limited := by
  cases redriveStep_transition moved with
  | start input => exact .rest (Nat.zero_le _) rfl fun _ => positive input rfl
  | assign partition session => exact { limited session rfl with }
  | @consumedDry session =>
    exact limited_handled { session with consumedCount := session.consumedCount + 1 } _ _
      (Nat.le_succ_of_le (counted session rfl).republished) (limited session rfl).bound
  | @consumed session _ _ _ was =>
    have below := (limited session rfl).polling was
    exact ⟨(limited session rfl).bound, nofun, fun _ _ _ _ => below⟩
  | @republished session partition offset record _ _ was =>
    exact ⟨(limited session rfl).republishing partition offset record was, nofun, nofun⟩
  | @notRepublished session partition offset record _ _ was =>
    have limited := limited session rfl
    exact .rest limited.bound rfl fun _ => limited.republishing partition offset record was
  | @committed session =>
    exact limited_handled { session with committedCount := session.committedCount + 1 } _ _
      (counted session rfl).republished (limited session rfl).bound
  | @notCommitted session _ _ applied =>
    exact .rest (limited session rfl).bound rfl fun _ => commits session applied rfl rfl
  | @idle session _ => exact .rest (limited session rfl).bound rfl nofun
  | fail session => exact .rest (limited session rfl).bound rfl nofun

/-! ### Every run -/

/-- What holds in every state: the runs are sound and count right, the group passed only what is
settled, and what is settled is on the main topic. -/
structure RedriveInvariant (state : RedriveState Session) : Prop where
  passes : state.topics.dlq.PassesSettled
  sound : ∀ session run, state.sessions session = some run → run.Sound state.topics.dlq
  counted : ∀ session run, state.sessions session = some run → run.Counted
  republished : ∀ partition offset record, state.topics.dlq.settled partition offset = true →
    state.topics.dlq.read partition offset = some record →
      ∃ mainPartition mainOffset, state.topics.main.read mainPartition mainOffset = some record

/-- What a session is after a step that replaced one. -/
theorem forall_sessions_update {sessions : Session → Option RedriveSession} {session : Session}
    {result : RedriveSession} {property : RedriveSession → Prop}
    (all : ∀ other run, sessions other = some run → property run) (new : property result)
    (other : Session) (run : RedriveSession)
    (stored : Function.update sessions session (some result) other = some run) : property run := by
  by_cases same : other = session
  · rw [same, Function.update_self, Option.some_inj] at stored
    exact stored ▸ new
  · rw [Function.update_of_ne same] at stored
    exact all other run stored

omit [DecidableEq Session] in
theorem RedriveMove.republished_invariant {topics later : MessageTopics}
    (move : RedriveMove topics later)
    (republished : ∀ partition offset record, topics.dlq.settled partition offset = true →
      topics.dlq.read partition offset = some record →
        ∃ mainPartition mainOffset, topics.main.read mainPartition mainOffset = some record)
    (partition offset : Nat) (record : KafkaRecord)
    (settled : later.dlq.settled partition offset = true)
    (found : later.dlq.read partition offset = some record) :
    ∃ mainPartition mainOffset, later.main.read mainPartition mainOffset = some record := by
  have kept : ∀ partition offset record, topics.dlq.settled partition offset = true →
      topics.dlq.read partition offset = some record →
        ∃ mainPartition mainOffset, later.main.read mainPartition mainOffset = some record := by
    intro partition offset record settled found
    obtain ⟨mainPartition, mainOffset, stored⟩ := republished partition offset record settled found
    exact ⟨mainPartition, mainOffset, move.grows_main.read _ _ _ stored⟩
  cases move with
  | kept => exact kept partition offset record settled found
  | sent =>
    rw [dlq_send_main] at settled found
    exact kept partition offset record settled found
  | committed => exact kept partition offset record settled found
  | republished sentPartition sentOffset sent mainPartition outcome present acknowledged =>
    have settled : ((topics.send MESSAGE_CREATED_TOPIC mainPartition sent outcome).dlq.settle
      sentPartition sentOffset).settled partition offset = true := settled
    have found : (topics.send MESSAGE_CREATED_TOPIC mainPartition sent outcome).dlq.read
      partition offset = some record := found
    rw [dlq_send_main] at settled found
    by_cases same : partition = sentPartition ∧ offset = sentOffset
    · -- The record that was settled now was appended to the main topic.
      rw [same.1, same.2, present, Option.some_inj] at found
      subst found
      have isSent : (fun other => other = sent) sent := rfl
      obtain ⟨newPartition, newOffset, record, stored, rfl, _⟩ :=
        unsettled_send_main isSent topics mainPartition acknowledged
      exact ⟨newPartition, newOffset, stored⟩
    · rw [Topic.settled_settle_eq, decide_eq_false same, Bool.false_and, Bool.or_false] at settled
      exact kept partition offset record settled found

omit [DecidableEq Session] in
theorem RedriveInvariant.initial : RedriveInvariant (.initial : RedriveState Session) where
  passes := .empty
  sound _ _ stored := nomatch stored
  counted _ _ stored := nomatch stored
  republished _ _ _ settled := absurd settled Bool.false_ne_true

theorem dlqRedriveStep_invariant {state next : RedriveState Session} {label : RedriveLabel Session}
    (invariant : RedriveInvariant state) (moved : dlqRedriveStep state label = some next) :
    RedriveInvariant next := by
  cases label with
  | appendMain partition record =>
    rw [← Option.some.inj moved]
    refine { invariant with republished := ?_ }
    intro other offset found settled stored
    obtain ⟨mainPartition, mainOffset, kept⟩ := invariant.republished other offset found settled
      stored
    exact ⟨mainPartition, mainOffset, Topic.read_append kept⟩
  | appendDlq partition record =>
    rw [← Option.some.inj moved]
    refine ⟨invariant.passes.append partition record, fun session run stored =>
      (invariant.sound session run stored).grows (Topic.grows_append _ _ _), invariant.counted, ?_⟩
    intro other offset found settled stored
    have bound : offset < (state.topics.dlq.records other).length :=
      state.topics.dlq.known other offset settled
    obtain ⟨earlier, isEarlier⟩ : ∃ earlier, state.topics.dlq.read other offset = some earlier :=
      ⟨_, List.getElem?_eq_getElem bound⟩
    have same := (Topic.read_append isEarlier).symm.trans stored
    rw [Option.some_inj] at same
    exact invariant.republished other offset found settled (same ▸ isEarlier)
  | redrive session action =>
    obtain ⟨result, stepped, rfl⟩ := Option.map_eq_some_iff.mp moved
    obtain ⟨move, sound⟩ := redriveStep_move invariant.passes (invariant.sound session) stepped
    have counted := redriveStep_counted (invariant.counted session) stepped
    refine ⟨move.passesSettled invariant.passes, ?_, ?_,
      move.republished_invariant invariant.republished⟩
    · exact forall_sessions_update
        (fun other run stored => (invariant.sound other run stored).grows move.grows_dlq) sound
    · exact forall_sessions_update invariant.counted counted

theorem redrive_invariant {labels : List (RedriveLabel Session)} {state : RedriveState Session}
    (reached : Transition.run dlqRedriveStep .initial labels = some state) :
    RedriveInvariant state :=
  Transition.run_invariant (fun _ _ _ holds moved => dlqRedriveStep_invariant holds moved) .initial
    reached

/-! ### What the redrive promises -/

/-- Every record the group passed is on the main topic, the counters are in order, and a dry run
changes neither topic nor offset. -/
structure RedrivesSafely (state : RedriveState Session) : Prop where
  republished : ∀ partition offset, offset < state.topics.dlq.passed partition →
    ∃ record, state.topics.dlq.read partition offset = some record ∧
      ∃ mainPartition mainOffset, state.topics.main.read mainPartition mainOffset = some record
  counters : ∀ session run, state.sessions session = some run →
    run.committedCount ≤ run.republishedCount ∧ run.republishedCount ≤ run.consumedCount
  dryRun : ∀ session run action next, state.sessions session = some run →
    run.input.dryRun = true → dlqRedriveStep state (.redrive session action) = some next →
      next.topics = state.topics

/-- No run has republished more records than its limit. -/
def WithinLimits (state : RedriveState Session) : Prop :=
  ∀ session run, state.sessions session = some run → run.republishedCount ≤ run.input.limit

theorem RedriveInvariant.safely {state : RedriveState Session}
    (invariant : RedriveInvariant state) :
    RedrivesSafely state where
  republished partition offset below := by
    have settled := invariant.passes partition offset below
    have bound := state.topics.dlq.known partition offset settled
    have found := List.getElem?_eq_getElem bound
    exact ⟨_, found, invariant.republished partition offset _ settled found⟩
  counters session run stored :=
    ⟨(invariant.counted session run stored).committed,
      (invariant.counted session run stored).republished⟩
  dryRun session run action next stored dry moved := by
    obtain ⟨result, stepped, rfl⟩ := Option.map_eq_some_iff.mp moved
    rw [stored] at stepped
    exact redriveStep_dryRun (invariant.counted session run stored) dry stepped

/-- The invariant with the limits. -/
def LimitedInvariant (state : RedriveState Session) : Prop :=
  RedriveInvariant state ∧ ∀ session run, state.sessions session = some run → run.Limited

theorem dlqRedriveStep_limited {state next : RedriveState Session} {label : RedriveLabel Session}
    (invariant : LimitedInvariant state)
    (positive : ∀ session input, label = .redrive session (.start input) → 1 ≤ input.limit)
    (allowed : ¬ RefusedAtLimit state label)
    (moved : dlqRedriveStep state label = some next) : LimitedInvariant next := by
  refine ⟨dlqRedriveStep_invariant invariant.1 moved, ?_⟩
  cases label with
  | appendMain partition record =>
    rw [← Option.some.inj moved]
    exact invariant.2
  | appendDlq partition record =>
    rw [← Option.some.inj moved]
    exact invariant.2
  | redrive session action =>
    obtain ⟨result, stepped, rfl⟩ := Option.map_eq_some_iff.mp moved
    refine forall_sessions_update invariant.2 ?_
    refine redriveStep_limited (invariant.1.counted session) (invariant.2 session) ?_ ?_ stepped
    · rintro input rfl
      exact positive session input rfl
    · rintro run applied stored rfl
      exact Nat.lt_of_not_le fun reached => allowed ⟨run, stored, reached⟩

/-- In every run with limits of one or more, the redrive is safe, and no run republishes more
records than its limit unless a commit is refused after it has reached the limit. -/
theorem redrive_safe_within_limits {labels : List (RedriveLabel Session)}
    {state : RedriveState Session}
    (positive : ∀ session input, .redrive session (.start input) ∈ labels → 1 ≤ input.limit)
    (reached : Transition.run dlqRedriveStep .initial labels = some state) :
    RedrivesSafely state ∧ (∀ offset, nextOffset (decimal offset) = decimal (offset + 1)) ∧
      (Transition.Along dlqRedriveStep (fun state label => ¬ RefusedAtLimit state label) .initial
        labels → WithinLimits state) := by
  refine ⟨(redrive_invariant reached).safely, nextOffset_decimal, fun allowed => ?_⟩
  have starts : Transition.Along dlqRedriveStep (fun _ label => ∀ session input,
      label = .redrive session (.start input) → 1 ≤ input.limit) .initial labels := by
    refine Transition.along_of_forall (fun label member _ => ?_) _
    rintro session input rfl
    exact positive session input member
  have invariant : LimitedInvariant state := Transition.run_invariant_along
    (fun _ _ _ holds meets moved => dlqRedriveStep_limited holds meets.1 meets.2 moved)
    ⟨.initial, fun _ _ stored => nomatch stored⟩ (starts.and allowed) reached
  exact fun session run stored => (invariant.2 session run stored).bound

end Steps

/-! ### Two runs -/

def exampleRecord : KafkaRecord := ⟨some [0x6B], some [0x76]⟩

/-- A run with limit one whose first send fails. -/
def resentRecord : List (RedriveLabel Bool) :=
  [.appendDlq 0 exampleRecord, .redrive true (.start ⟨false, 1⟩), .redrive true (.assign 0),
    .redrive true (.consume 0), .redrive true (.republish 2 (.rejected false (.error []))),
    .redrive true (.consume 0), .redrive true (.republish 2 .acknowledged),
    .redrive true (.commitOffsets .acknowledged)]

theorem redrive_safe_within_limits_resent :
    ∃ state, Transition.run dlqRedriveStep .initial resentRecord = some state ∧
      state.topics.dlq.passed 0 = 1 ∧ RedrivesSafely state ∧ WithinLimits state := by
  have runs : (Transition.run dlqRedriveStep .initial resentRecord).any
      (fun state => decide (state.topics.dlq.passed 0 = 1)) = true := by decide +kernel
  obtain ⟨state, reached, passed⟩ := (Option.any_eq_true _ _).mp runs
  have positive : ∀ session input, .redrive session (.start input) ∈ resentRecord →
      1 ≤ input.limit := by
    intro session input member
    simp only [resentRecord, List.mem_cons, RedriveLabel.redrive.injEq, RedriveAction.start.injEq,
      reduceCtorEq, and_false, false_or, or_false, List.not_mem_nil] at member
    rw [member.2]
  obtain ⟨safely, _, within⟩ := redrive_safe_within_limits positive reached
  refine ⟨state, reached, of_decide_eq_true passed, safely, within ?_⟩
  refine Transition.along_of_forall (fun label member state => ?_) _
  simp only [resentRecord, List.mem_cons, List.not_mem_nil, or_false] at member
  rcases member with rfl | rfl | rfl | rfl | rfl | rfl | rfl | rfl
  all_goals exact id

def otherRecord : KafkaRecord := ⟨some [0x6C], some [0x77]⟩

/-- A run with limit one that is assigned two partitions, and whose first commit is refused. -/
def refusedCommit : List (RedriveLabel Bool) :=
  [.appendDlq 0 exampleRecord, .appendDlq 1 otherRecord, .redrive true (.start ⟨false, 1⟩),
    .redrive true (.assign 0), .redrive true (.assign 1), .redrive true (.consume 0),
    .redrive true (.republish 2 .acknowledged), .redrive true (.commitOffsets (.rejected false)),
    .redrive true (.consume 1), .redrive true (.republish 2 .acknowledged)]

/-- The run republishes the records of both partitions. -/
theorem refused_commit_exceeds_limit :
    ∃ state, Transition.run dlqRedriveStep .initial refusedCommit = some state ∧
      ¬ WithinLimits state := by
  have runs : (Transition.run dlqRedriveStep .initial refusedCommit).any (fun state =>
      (state.sessions true).any fun run =>
        decide (run.input.limit < run.republishedCount)) = true := by
    decide +kernel
  obtain ⟨state, reached, exceeds⟩ := (Option.any_eq_true _ _).mp runs
  obtain ⟨run, stored, exceeds⟩ := (Option.any_eq_true _ _).mp exceeds
  refine ⟨state, reached, fun within => ?_⟩
  exact absurd (within true run stored) (Nat.not_le_of_lt (of_decide_eq_true exceeds))

end MessageManagement
