/-
This file proves that `handleMessage` ends every record it is handed in exactly
one way: the record is skipped, or one attempt to index it succeeded, or it is in
the dead-letter topic. Only a dead-letter send that fails makes it reject.

The results of the `indexMessage` calls and of the send are given in advance, as
a function of the attempt and a Boolean; the trace keeps what was called with
what.
-/

import MessageManagement.SearchIndexer

namespace MessageManagement

variable {Number : Type}

/-! ### The calls of a handler -/

/-- What a handler called so far: `indexMessage` with a document, and what that threw, and
`publishRaw` with a value, and whether that was acknowledged. -/
structure HandlerTrace (Number : Type) where
  phase : HandlerPhase Number
  index : SearchIndex Number
  calls : List (SearchMessageDocument Number × Option IndexError)
  sent : List (Option Bytes × Bool)

/-- One request of `handleMessage` for a record with this value. -/
def HandlerTrace.advance (results : Nat → IndexResult) (acknowledged : Bool) (value : Option Bytes)
    (trace : HandlerTrace Number) : HandlerTrace Number :=
  match trace.phase with
  | .indexing document attempt =>
    let indexing := indexMessage document (results attempt) trace.index
    { trace with
      phase := afterIndexMessage document attempt indexing.2
      index := indexing.1
      calls := trace.calls ++ [(document, indexing.2)] }
  | .publishingToDlq =>
    { trace with
      phase := afterPublishToDlq acknowledged
      sent := trace.sent ++ [(value, acknowledged)] }
  | .resolved => trace
  | .rejected => trace

def HandlerTrace.advanceTimes (results : Nat → IndexResult) (acknowledged : Bool)
    (value : Option Bytes) : Nat → HandlerTrace Number → HandlerTrace Number
  | 0, trace => trace
  | requests + 1, trace =>
    HandlerTrace.advanceTimes results acknowledged value requests
      (trace.advance results acknowledged value)

/-- `handleMessage`: after all attempts and the send it is done. -/
def handleMessage [JsNumber Number] [DecidableEq Number] (runtime : JsRuntime)
    (index : SearchIndex Number) (results : Nat → IndexResult) (acknowledged : Bool)
    (value : Option Bytes) : HandlerTrace Number :=
  HandlerTrace.advanceTimes results acknowledged value (MAX_INDEX_ATTEMPTS + 1)
    { phase := startHandling runtime value, index, calls := [], sent := [] }

/-! ### One outcome -/

/-- The attempt failed with an error that is worth another attempt. -/
def failedRetryably (call : SearchMessageDocument Number × Option IndexError) : Bool :=
  call.2.any isRetryableElasticsearchError

/-- The attempts ended without success: the last error was not worth another attempt, or the
attempts were used up. -/
def gaveUp (calls : List (SearchMessageDocument Number × Option IndexError)) : Bool :=
  calls.getLast?.any fun call =>
    call.2.any fun error =>
      !isRetryableElasticsearchError error || calls.length == MAX_INDEX_ATTEMPTS

variable [JsNumber Number] [DecidableEq Number]

/-- The record has a type or version that is not supported. -/
def isSkipped (Number : Type) [JsNumber Number] [DecidableEq Number] (runtime : JsRuntime)
    (value : Option Bytes) : Bool :=
  match (parseMessageCreatedEvent runtime value : Except _ (ParsedEvent Number)) with
  | .ok (.unknownVersion _ _) => true
  | _ => false

/-- The value is empty, no JSON, or no envelope of an event. -/
def isMalformed (Number : Type) [JsNumber Number] [DecidableEq Number] (runtime : JsRuntime)
    (value : Option Bytes) : Bool :=
  match (parseMessageCreatedEvent runtime value : Except _ (ParsedEvent Number)) with
  | .error _ => true
  | .ok _ => false

/-- What happened to a record: it was skipped, indexed, or put in the dead-letter topic. -/
def outcomes (runtime : JsRuntime) (value : Option Bytes) (trace : HandlerTrace Number) :
    List Bool :=
  [isSkipped Number runtime value, trace.calls.any fun call => call.2.isNone,
    trace.sent.any fun sent => sent.2]

/-- Exactly one thing happens to a record if its handler resolves, and it rejects only if the
dead-letter send failed. -/
structure HasOneOutcome (runtime : JsRuntime) (value : Option Bytes)
    (trace : HandlerTrace Number) : Prop where
  settled : trace.phase = .resolved ∨ trace.phase = .rejected
  resolved : trace.phase = .resolved ↔ (outcomes runtime value trace).count true = 1
  rejected : trace.phase = .rejected → trace.sent = [(value, false)]
  attempts : trace.calls.length ≤ MAX_INDEX_ATTEMPTS
  document : ∀ call ∈ trace.calls, ∃ event,
    parseMessageCreatedEvent runtime value = .ok (.messageCreated event) ∧
      call.1 = projectMessageCreatedEvent runtime event ∧
        (projectMessageDocument call.1).isSome = true
  retried : ∀ call ∈ trace.calls.dropLast, failedRetryably call = true
  sends : (∃ acknowledged, trace.sent = [(value, acknowledged)]) ∨ trace.sent = []
  sendsIf : trace.sent ≠ [] ↔ (isMalformed Number runtime value || gaveUp trace.calls) = true

/-! ### An accepted event can be indexed -/

omit [JsNumber Number] [DecidableEq Number] in
theorem dated_of_assertEventPayload {runtime : JsRuntime} {fields : List (JsString × Json Number)}
    {payload : MessageCreatedEventPayload Number}
    (accepted : assertEventPayload runtime fields = .ok payload) :
    (runtime.date payload.timestamp).isSome = true := by
  unfold assertEventPayload at accepted
  split at accepted
  · split at accepted
    · exact nomatch accepted
    · rename_i dated
      rw [Option.isNone_iff_eq_none, ← ne_eq, Option.ne_none_iff_isSome] at dated
      split at accepted
      · rw [← Except.ok.inj accepted]
        exact dated
      · rw [← Except.ok.inj accepted]
        exact dated
      · exact nomatch accepted
  · exact nomatch accepted

omit [JsNumber Number] [DecidableEq Number] in
theorem map_eq_ok {Error First Second : Type} {change : First → Second}
    {result : Except Error First} {second : Second} (mapped : result.map change = .ok second) :
    ∃ first, result = .ok first ∧ change first = second := by
  cases result with
  | error error => exact nomatch mapped
  | ok first => exact ⟨first, rfl, Except.ok.inj mapped⟩

omit [JsNumber Number] [DecidableEq Number] in
theorem dated_of_assertMessageCreatedEvent {runtime : JsRuntime}
    {fields : List (JsString × Json Number)} {event : MessageCreatedEvent Number}
    (accepted : assertMessageCreatedEvent runtime fields = .ok event) :
    (runtime.date event.payload.timestamp).isSome = true := by
  unfold assertMessageCreatedEvent at accepted
  split at accepted
  · obtain ⟨payload, isPayload, rfl⟩ := map_eq_ok accepted
    exact dated_of_assertEventPayload isPayload
  · exact nomatch accepted

/-- The timestamp of an accepted event is a date. -/
theorem dated_of_parse {runtime : JsRuntime} {value : Option Bytes}
    {event : MessageCreatedEvent Number}
    (accepted : parseMessageCreatedEvent runtime value = .ok (.messageCreated event)) :
    (runtime.date event.payload.timestamp).isSome = true := by
  unfold parseMessageCreatedEvent at accepted
  split at accepted
  · exact nomatch accepted
  · split at accepted
    · exact nomatch accepted
    · split at accepted
      · split at accepted
        · exact nomatch accepted
        · obtain ⟨found, asserted, isEvent⟩ := map_eq_ok accepted
          rw [ParsedEvent.messageCreated.injEq] at isEvent
          exact dated_of_assertMessageCreatedEvent (isEvent ▸ asserted)
      · exact nomatch accepted
    · exact nomatch accepted

/-! ### What a handler has behind it -/

/-- The attempts so far are attempts at one document, and all but the last were worth another. -/
structure Attempts (runtime : JsRuntime) (value : Option Bytes)
    (calls : List (SearchMessageDocument Number × Option IndexError)) : Prop where
  bound : calls.length ≤ MAX_INDEX_ATTEMPTS
  document : ∀ call ∈ calls, ∃ event,
    parseMessageCreatedEvent runtime value = .ok (.messageCreated event) ∧
      call.1 = projectMessageCreatedEvent runtime event ∧
        (projectMessageDocument call.1).isSome = true
  retried : ∀ call ∈ calls.dropLast, failedRetryably call = true

/-- No attempt succeeded, and there is reason for the dead-letter topic. -/
structure Undelivered (runtime : JsRuntime) (value : Option Bytes)
    (calls : List (SearchMessageDocument Number × Option IndexError)) : Prop where
  reason : (isMalformed Number runtime value || gaveUp calls) = true
  notSkipped : isSkipped Number runtime value = false
  notIndexed : (calls.any fun call => call.2.isNone) = false

/-- The record was skipped or indexed, and there is no reason for the dead-letter topic. -/
structure Delivered (runtime : JsRuntime) (value : Option Bytes)
    (calls : List (SearchMessageDocument Number × Option IndexError)) : Prop where
  noReason : (isMalformed Number runtime value || gaveUp calls) = false
  once : [isSkipped Number runtime value, calls.any fun call => call.2.isNone].count true = 1

/-- What the trace says of a record, by where its handler is. -/
def HandlerTrace.Accounts (runtime : JsRuntime) (value : Option Bytes)
    (trace : HandlerTrace Number) : Prop :=
  Attempts runtime value trace.calls ∧
    match trace.phase with
    | .indexing document attempt => trace.sent = [] ∧ attempt = trace.calls.length + 1 ∧
        attempt ≤ MAX_INDEX_ATTEMPTS ∧ (∀ call ∈ trace.calls, failedRetryably call = true) ∧
          ∃ event, parseMessageCreatedEvent runtime value = .ok (.messageCreated event) ∧
            document = projectMessageCreatedEvent runtime event
    | .publishingToDlq => trace.sent = [] ∧ Undelivered runtime value trace.calls
    | .resolved => trace.sent = [] ∧ Delivered runtime value trace.calls ∨
        trace.sent = [(value, true)] ∧ Undelivered runtime value trace.calls
    | .rejected => trace.sent = [(value, false)] ∧ Undelivered runtime value trace.calls

/-- How many requests a handler may still make. -/
def HandlerPhase.remaining : HandlerPhase Number → Nat
  | .indexing _ attempt => MAX_INDEX_ATTEMPTS + 2 - attempt
  | .publishingToDlq => 1
  | .resolved => 0
  | .rejected => 0

theorem Attempts.nil (runtime : JsRuntime) (value : Option Bytes) :
    Attempts runtime value ([] : List (SearchMessageDocument Number × Option IndexError)) where
  bound := Nat.zero_le _
  document _ member := absurd member List.not_mem_nil
  retried _ member := absurd member List.not_mem_nil

/-- One more attempt after attempts that were all worth another. -/
theorem Attempts.concat {runtime : JsRuntime} {value : Option Bytes}
    {calls : List (SearchMessageDocument Number × Option IndexError)}
    (attempts : Attempts runtime value calls) (more : calls.length < MAX_INDEX_ATTEMPTS)
    (failed : ∀ call ∈ calls, failedRetryably call = true) {event : MessageCreatedEvent Number}
    (parsed : parseMessageCreatedEvent runtime value = .ok (.messageCreated event))
    (error : Option IndexError) :
    Attempts runtime value (calls ++ [(projectMessageCreatedEvent runtime event, error)]) where
  bound := by
    rw [List.length_append, List.length_singleton]
    exact more
  document call member := by
    rcases List.mem_append.mp member with earlier | last
    · exact attempts.document call earlier
    · rw [List.mem_singleton.mp last]
      exact ⟨event, parsed, rfl, isSome_projectMessageDocument (dated_of_parse parsed)⟩
  retried call member := by
    rw [List.dropLast_concat] at member
    exact failed call member

theorem accounts_start (runtime : JsRuntime) (index : SearchIndex Number) (value : Option Bytes) :
    HandlerTrace.Accounts runtime value
      { phase := startHandling runtime value, index, calls := [], sent := [] } := by
  refine ⟨.nil runtime value, ?_⟩
  dsimp only
  cases parsed : (parseMessageCreatedEvent runtime value : Except _ (ParsedEvent Number)) with
  | error error =>
    rw [startHandling, parsed]
    refine ⟨rfl, ?_, ?_, rfl⟩
    · rw [isMalformed, parsed]
      rfl
    · rw [isSkipped, parsed]
  | ok parsedEvent =>
    cases parsedEvent with
    | messageCreated event =>
      rw [startHandling, parsed]
      exact ⟨rfl, rfl, by decide, fun _ member => absurd member List.not_mem_nil, event, rfl, rfl⟩
    | unknownVersion eventType eventVersion =>
      rw [startHandling, parsed]
      refine Or.inl ⟨rfl, ?_, ?_⟩
      · rw [isMalformed, parsed]
        rfl
      · rw [isSkipped, parsed]
        rfl

theorem notMalformed_of_parse {runtime : JsRuntime} {value : Option Bytes}
    {event : MessageCreatedEvent Number}
    (parsed : parseMessageCreatedEvent runtime value = .ok (.messageCreated event)) :
    isMalformed Number runtime value = false ∧ isSkipped Number runtime value = false := by
  rw [isMalformed, isSkipped, parsed]
  exact ⟨rfl, rfl⟩

omit [JsNumber Number] [DecidableEq Number] in
theorem gaveUp_concat
    (calls : List (SearchMessageDocument Number × Option IndexError))
    (document : SearchMessageDocument Number) (error : Option IndexError) :
    gaveUp (calls ++ [(document, error)]) = error.any fun error =>
      !isRetryableElasticsearchError error || calls.length + 1 == MAX_INDEX_ATTEMPTS := by
  rw [gaveUp, List.getLast?_concat, Option.any_some, List.length_append, List.length_singleton]

omit [JsNumber Number] [DecidableEq Number] in
/-- Attempts that were worth another have not succeeded. -/
theorem any_isNone_of_failed
    {calls : List (SearchMessageDocument Number × Option IndexError)}
    (failed : ∀ call ∈ calls, failedRetryably call = true) :
    (calls.any fun call => call.2.isNone) = false := by
  rw [List.any_eq_false]
  intro call member absent
  rw [Option.isNone_iff_eq_none] at absent
  have worth := failed call member
  rw [failedRetryably, absent] at worth
  exact nomatch worth

/-- A request leaves an account of the record. -/
theorem accounts_advance {runtime : JsRuntime} {value : Option Bytes}
    {trace : HandlerTrace Number} (results : Nat → IndexResult) (acknowledged : Bool)
    (accounts : trace.Accounts runtime value) :
    (trace.advance results acknowledged value).Accounts runtime value := by
  obtain ⟨phase, index, calls, sent⟩ := trace
  obtain ⟨attempts, account⟩ := accounts
  cases phase with
  | indexing document attempt =>
    dsimp only at attempts account
    obtain ⟨unsent, rfl, bound, failed, event, parsed, rfl⟩ := account
    obtain ⟨notMalformed, notSkipped⟩ := notMalformed_of_parse parsed
    have notIndexed := any_isNone_of_failed failed
    simp only [HandlerTrace.advance]
    generalize (indexMessage (projectMessageCreatedEvent runtime event) (results (calls.length + 1))
      index).2 = error
    refine ⟨attempts.concat bound failed parsed error, ?_⟩
    unfold afterIndexMessage
    cases error with
    | none =>
      refine Or.inl ⟨unsent, ?_, ?_⟩
      · rw [gaveUp_concat, notMalformed]
        rfl
      · rw [notSkipped, List.any_append, notIndexed]
        rfl
    | some error =>
      dsimp only
      by_cases final : (!isRetryableElasticsearchError error ||
          calls.length + 1 == MAX_INDEX_ATTEMPTS) = true
      · rw [if_pos final]
        refine ⟨unsent, ?_, notSkipped, ?_⟩
        · rw [gaveUp_concat, notMalformed, Bool.false_or, Option.any_some]
          exact final
        · rw [List.any_append, notIndexed]
          rfl
      · rw [if_neg final]
        rw [Bool.or_eq_true, Bool.not_eq_true', beq_iff_eq, not_or, Bool.not_eq_false] at final
        refine ⟨unsent, ?_, Nat.lt_of_le_of_ne bound final.2, ?_, event, parsed, rfl⟩
        · rw [List.length_append, List.length_singleton]
        · intro call member
          rcases List.mem_append.mp member with earlier | last
          · exact failed call earlier
          · rw [List.mem_singleton.mp last]
            exact final.1
  | publishingToDlq =>
    dsimp only at attempts account
    obtain ⟨unsent, undelivered⟩ := account
    refine ⟨attempts, ?_⟩
    simp only [HandlerTrace.advance]
    cases acknowledged with
    | true => exact Or.inr ⟨by rw [unsent, List.nil_append], undelivered⟩
    | false => exact ⟨by rw [unsent, List.nil_append], undelivered⟩
  | resolved => exact ⟨attempts, account⟩
  | rejected => exact ⟨attempts, account⟩

/-! ### The end of a handler -/

theorem remaining_advance {runtime : JsRuntime} {value : Option Bytes}
    {trace : HandlerTrace Number} (results : Nat → IndexResult) (acknowledged : Bool)
    (accounts : trace.Accounts runtime value) :
    (trace.advance results acknowledged value).phase.remaining ≤ trace.phase.remaining - 1 := by
  obtain ⟨phase, index, calls, sent⟩ := trace
  cases phase with
  | indexing document attempt =>
    obtain ⟨_, unsent, isAttempt, bound, _⟩ := accounts
    dsimp only at isAttempt bound
    simp only [HandlerTrace.advance]
    generalize (indexMessage document (results attempt) index).2 = error
    unfold afterIndexMessage
    cases error with
    | none => exact Nat.zero_le _
    | some error =>
      dsimp only
      split
      · simp only [HandlerPhase.remaining]
        omega
      · simp only [HandlerPhase.remaining]
        omega
  | publishingToDlq =>
    cases acknowledged with
    | true => exact le_refl _
    | false => exact le_refl _
  | resolved => exact le_refl _
  | rejected => exact le_refl _

theorem accounts_advanceTimes {runtime : JsRuntime} {value : Option Bytes}
    (results : Nat → IndexResult) (acknowledged : Bool) {requests : Nat}
    {trace : HandlerTrace Number} (accounts : trace.Accounts runtime value)
    (enough : trace.phase.remaining ≤ requests) :
    (HandlerTrace.advanceTimes results acknowledged value requests trace).Accounts runtime value ∧
      (HandlerTrace.advanceTimes results acknowledged value requests trace).phase.remaining = 0 := by
  induction requests generalizing trace with
  | zero => exact ⟨accounts, Nat.le_zero.mp enough⟩
  | succ requests inductionHypothesis =>
    refine inductionHypothesis (accounts_advance results acknowledged accounts) ?_
    have fewer := remaining_advance results acknowledged accounts
    omega

/-- Whatever the record and whatever becomes of the requests, `handleMessage` ends with exactly one
outcome. -/
theorem handleMessage_hasOneOutcome (runtime : JsRuntime) (index : SearchIndex Number)
    (results : Nat → IndexResult) (acknowledged : Bool) (value : Option Bytes) :
    HasOneOutcome runtime value (handleMessage runtime index results acknowledged value) := by
  have enough : (startHandling runtime value : HandlerPhase Number).remaining ≤
      MAX_INDEX_ATTEMPTS + 1 := by
    unfold startHandling
    split
    · exact Nat.le_add_left _ _
    · exact Nat.zero_le _
    · exact le_refl _
  obtain ⟨⟨attempts, account⟩, done⟩ := accounts_advanceTimes results acknowledged
    (accounts_start runtime index value) enough
  rw [handleMessage]
  generalize HandlerTrace.advanceTimes results acknowledged value (MAX_INDEX_ATTEMPTS + 1) _ = trace
    at attempts account done
  obtain ⟨phase, index, calls, sent⟩ := trace
  dsimp only at attempts account done
  cases phase with
  | indexing document attempt =>
    obtain ⟨_, _, bound, _⟩ := account
    rw [HandlerPhase.remaining] at done
    omega
  | publishingToDlq => exact nomatch done
  | resolved =>
    refine ⟨Or.inl rfl, iff_of_true rfl ?_, nofun, attempts.bound, attempts.document,
      attempts.retried, ?_, ?_⟩
    · rcases account with ⟨rfl, delivered⟩ | ⟨rfl, undelivered⟩
      · have once := delivered.once
        simp only [outcomes, List.any_nil, List.count_cons, List.count_nil] at once ⊢
        exact once
      · rw [outcomes, undelivered.notSkipped, undelivered.notIndexed]
        rfl
    · exact account.elim (fun delivered => Or.inr delivered.1)
        fun undelivered => Or.inl ⟨true, undelivered.1⟩
    · rcases account with ⟨rfl, delivered⟩ | ⟨rfl, undelivered⟩
      · exact iff_of_false (fun some => some rfl)
          (Bool.eq_false_iff.mp delivered.noReason)
      · exact iff_of_true (List.cons_ne_nil _ _) undelivered.reason
  | rejected =>
    obtain ⟨rfl, undelivered⟩ := account
    refine ⟨Or.inr rfl, iff_of_false nofun ?_, fun _ => rfl, attempts.bound, attempts.document,
      attempts.retried, Or.inl ⟨false, rfl⟩, iff_of_true (List.cons_ne_nil _ _) undelivered.reason⟩
    rw [outcomes, undelivered.notSkipped, undelivered.notIndexed]
    exact Nat.zero_ne_one

end MessageManagement
