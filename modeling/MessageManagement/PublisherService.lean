/-
This file models the parts of the outbox publisher service that decide what is
written to the outbox: its configuration, its retry delay and the update it
issues when publishing an event failed.
-/

import MessageManagement.OutboxRepository

namespace MessageManagement

variable {Instance Payload : Type}

/-! ### Configuration -/

/-- The outbox settings all publisher instances share, within the ranges the runtime
validation schema enforces. -/
structure PublisherConfig where
  batchSize : Nat
  lockTimeoutMs : Int
  maxAttempts : Int
  lockTimeoutMs_pos : 0 < lockTimeoutMs
  maxAttempts_pos : 1 ≤ maxAttempts

/-- The defaults of the service. -/
def PublisherConfig.default : PublisherConfig where
  batchSize := 50
  lockTimeoutMs := 30000
  maxAttempts := 10
  lockTimeoutMs_pos := by decide
  maxAttempts_pos := by decide

/-- The defaults with the least number of attempts. -/
def PublisherConfig.singleAttempt : PublisherConfig where
  batchSize := 50
  lockTimeoutMs := 30000
  maxAttempts := 1
  lockTimeoutMs_pos := by decide
  maxAttempts_pos := by decide

/-- The input of the `claimPublishable` call of one run. -/
def PublisherConfig.claimInput (config : PublisherConfig) (lockedBy : Instance) (now : Int) :
    ClaimPublishableOutboxEventsInput Instance where
  batchSize := config.batchSize
  lockedBy := lockedBy
  lockTimeoutMs := config.lockTimeoutMs
  now := now

/-! ### Errors and delays -/

/-- What a `catch` receives: an `Error` with its message, or another value with the text
`String()` makes of it. -/
inductive ThrownValue
  | error (message : JsString)
  | other (text : JsString)

def MAX_LAST_ERROR_LENGTH : Nat := 2000

def normalizeError : ThrownValue → JsString
  | .error message => message.take MAX_LAST_ERROR_LENGTH
  | .other text => text.take MAX_LAST_ERROR_LENGTH

def BASE_RETRY_DELAY_MS : Int := 1000

def MAX_RETRY_DELAY_MS : Int := 5 * 60 * 1000

/-- `calculateRetryDelayMs`; `random` is what `Math.random` returned. `Math.round` rounds half
up. -/
def calculateRetryDelayMs (attempts : Int) (random : ℚ) : Int :=
  let exponentialDelay := min (BASE_RETRY_DELAY_MS * 2 ^ (attempts - 1).toNat) MAX_RETRY_DELAY_MS
  let jitterFactor := 8 / 10 + random * (4 / 10)
  ⌊(exponentialDelay : ℚ) * jitterFactor + 1 / 2⌋

theorem calculateRetryDelayMs_nonneg (attempts : Int) {random : ℚ} (nonneg : 0 ≤ random) :
    0 ≤ calculateRetryDelayMs attempts random := by
  have delay : (0 : Int) ≤
      min (BASE_RETRY_DELAY_MS * 2 ^ (attempts - 1).toNat) MAX_RETRY_DELAY_MS := by
    refine le_min ?_ (by decide)
    exact mul_nonneg (by decide) (pow_nonneg (by decide) _)
  refine Int.floor_nonneg.mpr ?_
  have castDelay : (0 : ℚ) ≤
      ((min (BASE_RETRY_DELAY_MS * 2 ^ (attempts - 1).toNat) MAX_RETRY_DELAY_MS : Int) : ℚ) := by
    exact_mod_cast delay
  positivity

/-- The documented delays: one second before jitter after the first failure, five minutes after
many. -/
example : calculateRetryDelayMs 1 (1 / 2) = 1000 ∧ calculateRetryDelayMs 2 (1 / 2) = 2000 ∧
    calculateRetryDelayMs 20 (1 / 2) = 300000 ∧ calculateRetryDelayMs 1 0 = 800 := by
  decide +kernel

/-! ### The update after a failed publish -/

variable [DecidableEq Instance]

/-- `handlePublishFailure`, up to its logging and metrics: the one update it issues for a
claimed event, whether that matched, and the collection afterwards. `now` is the clock it
reads and `random` the jitter it draws. -/
def handlePublishFailure (config : PublisherConfig) (instanceId : Instance)
    (event : OutboxEvent Instance Payload) (error : ThrownValue) (now : Int) (random : ℚ)
    (outbox : OutboxCollection Instance Payload) : Bool × OutboxCollection Instance Payload :=
  let attempts := event.attempts + 1
  if attempts ≥ config.maxAttempts then
    markFailed
      { attempts, failedAt := now, id := event.id, lastError := normalizeError error,
        lockedBy := instanceId } outbox
  else
    scheduleRetry
      { attempts, id := event.id, lastError := normalizeError error, lockedBy := instanceId,
        nextAttemptAt := now + calculateRetryDelayMs attempts random } outbox

/-- The update itself, whichever branch issues it. -/
def failureUpdate (config : PublisherConfig) (instanceId : Instance)
    (event : OutboxEvent Instance Payload) (error : ThrownValue) (now : Int) (random : ℚ) :
    OutboxEventEntity Instance Payload → OutboxEventEntity Instance Payload :=
  if event.attempts + 1 ≥ config.maxAttempts then
    failedUpdate
      { attempts := event.attempts + 1, failedAt := now, id := event.id,
        lastError := normalizeError error, lockedBy := instanceId }
  else
    retryUpdate
      { attempts := event.attempts + 1, id := event.id, lastError := normalizeError error,
        lockedBy := instanceId,
        nextAttemptAt := now + calculateRetryDelayMs (event.attempts + 1) random }

/-- Both branches of a failure are lock-owner-safe updates of the claimed row. -/
theorem handlePublishFailure_eq (config : PublisherConfig) (instanceId : Instance)
    (event : OutboxEvent Instance Payload) (error : ThrownValue) (now : Int) (random : ℚ)
    (outbox : OutboxCollection Instance Payload) :
    handlePublishFailure config instanceId event error now random outbox =
      outbox.updateOne event.id (lockOwnerFilter instanceId)
        (failureUpdate config instanceId event error now random) := by
  by_cases exhausted : event.attempts + 1 ≥ config.maxAttempts
  · simp only [handlePublishFailure, failureUpdate, if_pos exhausted, markFailed]
  · simp only [handlePublishFailure, failureUpdate, if_neg exhausted, scheduleRetry]

end MessageManagement
