/-
This file models how a process is configured: the schema that validates its
environment when it starts, and the configuration that its services read.

The two are written apart. The schema converts and normalises the values it
accepts, but a variable that was set before keeps its text, which the configuration
reads on its own. So the settings of a process that starts have to be shown to be
those that validation accepted, whichever text they are read from.

What Joi and `Number` make of a text is not in the repository: `EnvReaders` says
what is relied on.
-/

import MessageManagement.ApiKeys
import MessageManagement.EventFormat
import MessageManagement.Library.Numbers
import MessageManagement.Library.Separated
import MessageManagement.PublisherService

namespace MessageManagement

/-! ### The environment -/

inductive MessageManagementRuntime
  | api
  | outboxPublisher
  | searchIndexer
  | cli
  deriving DecidableEq

/-- The variables that some schema knows. -/
inductive EnvName
  | nodeEnv
  | logLevel
  | port
  | apiKeys
  | mongodbUri
  | elasticsearchNode
  | kafkaBrokers
  | kafkaClientId
  | outboxPollIntervalMs
  | outboxBatchSize
  | outboxMaxAttempts
  | outboxLockTimeoutMs
  | outboxHealthPort
  | indexerHealthPort
  deriving DecidableEq

/-- The values of the variables that are set. -/
abbrev Env := EnvName → Option JsString

def MAX_SAFE_INTEGER : Nat := 2 ^ 53 - 1

/-- `Number`, the conversion of `Joi.number()`, which refuses what it cannot convert or what is no
safe number, and `Joi.string().uri()` for some schemes. -/
structure EnvReaders where
  number : JsString → NumberValue
  joiNumber : JsString → Option NumberValue
  isUri : List JsString → JsString → Bool
  converts : ∀ text value, joiNumber text = some value → number text = value
  safe : ∀ text value (natural : Nat), joiNumber text = some value →
    value.integer? = some (natural : ℤ) → natural ≤ MAX_SAFE_INTEGER
  prints : ∀ natural ≤ MAX_SAFE_INTEGER, number (decimal natural) = .finite natural

/-! ### The schemas -/

def ENVIRONMENTS : List JsString :=
  [jsString "development", jsString "test", jsString "production"]

def LOG_LEVELS : List JsString :=
  [jsString "fatal", jsString "error", jsString "warn", jsString "info", jsString "debug",
    jsString "trace", jsString "silent"]

/-- The schema of one variable: one of some texts, an integer within bounds, the keys of the API, a
URI, a list of brokers, or a client id. -/
inductive VariableSchema
  | oneOf (values : List JsString) (default : JsString)
  | number (least : Nat) (most : Option Nat) (default : Nat)
  | apiKeys
  | uri (schemes : List JsString) (required : Bool)
  | brokers (required : Bool)
  | clientId (default : JsString)

abbrev EnvSchema := EnvName → Option VariableSchema

/-- `Joi.number().port()`. -/
def portSchema (default : Nat) : VariableSchema := .number 0 (some 65535) default

def mongodbUriSchema (required : Bool) : VariableSchema :=
  .uri [jsString "mongodb", jsString "mongodb+srv"] required

def elasticsearchNodeSchema (required : Bool) : VariableSchema :=
  .uri [jsString "http", jsString "https"] required

def baseSchema : EnvSchema
  | .nodeEnv => some (.oneOf ENVIRONMENTS (jsString "development"))
  | .logLevel => some (.oneOf LOG_LEVELS (jsString "info"))
  | _ => none

def apiSchema : EnvSchema
  | .port => some (portSchema 3000)
  | .apiKeys => some .apiKeys
  | .mongodbUri => some (mongodbUriSchema true)
  | .elasticsearchNode => some (elasticsearchNodeSchema true)
  | _ => none

def mongoSchema (required : Bool) : EnvSchema
  | .mongodbUri => some (mongodbUriSchema required)
  | _ => none

def kafkaSchema (required : Bool) : EnvSchema
  | .kafkaBrokers => some (.brokers required)
  | .kafkaClientId => some (.clientId (jsString "message-management-api"))
  | _ => none

def elasticsearchSchema (required : Bool) : EnvSchema
  | .elasticsearchNode => some (elasticsearchNodeSchema required)
  | _ => none

def outboxTuningSchema : EnvSchema
  | .outboxPollIntervalMs => some (.number 100 none 500)
  | .outboxBatchSize => some (.number 1 (some 500) 50)
  | .outboxMaxAttempts => some (.number 1 (some 100) 10)
  | .outboxLockTimeoutMs => some (.number 1000 none 30000)
  | .outboxHealthPort => some (portSchema 3001)
  | _ => none

def indexerSchema : EnvSchema
  | .indexerHealthPort => some (portSchema 3002)
  | _ => none

/-- The spread of some schemas into one; no two of them have a variable in common. -/
def mergeSchemas (schemas : List EnvSchema) : EnvSchema := fun name =>
  schemas.findSome? fun schema => schema name

def createRuntimeValidationSchema : MessageManagementRuntime → EnvSchema
  | .api => mergeSchemas [baseSchema, apiSchema]
  | .outboxPublisher =>
    mergeSchemas [baseSchema, mongoSchema true, kafkaSchema true, outboxTuningSchema]
  | .searchIndexer =>
    mergeSchemas [baseSchema, kafkaSchema true, elasticsearchSchema true, indexerSchema]
  | .cli =>
    mergeSchemas [baseSchema, mongoSchema false, kafkaSchema false, elasticsearchSchema false,
      outboxTuningSchema, indexerSchema]

/-! ### Validation -/

/-- The `split`, `trim` and `filter(Boolean)` of a list of brokers. -/
def brokerEntries (value : JsString) : List JsString := Separated.entries COMMA isTrimmed value

/-- The custom rule for a list of brokers: it is replaced by its entries, joined again. -/
def validateBrokers (value : JsString) : Option JsString :=
  let brokers := brokerEntries value
  if brokers.length == 0 || brokers.any fun broker => !decide (COLON ∈ broker) then none
  else some (Separated.join COMMA brokers)

section Readers

variable (readers : EnvReaders)

/-- What a variable is after validation, as the text that goes to `process.env`: nothing where an
optional one is not set. -/
def VariableSchema.validate : VariableSchema → Option JsString → Option (Option JsString)
  | .oneOf _ default, none => some (some default)
  | .oneOf values _, some text => if values.contains text then some (some text) else none
  | .number _ _ default, none => some (some (decimal default))
  | .number least most _, some text =>
    ((readers.joiNumber text).bind (·.naturalWithin least most)).map fun value =>
      some (decimal value)
  | .apiKeys, value => if validatesApiKeys value then some value else none
  | .uri _ required, none => if required then none else some none
  | .uri schemes _, some text => if readers.isUri schemes text then some (some text) else none
  | .brokers required, none => if required then none else some none
  | .brokers _, some text => (validateBrokers text).map some
  | .clientId default, none => some (some default)
  | .clientId _, some text => if 1 ≤ (trim text).length then some (some (trim text)) else none

/-- Variables without a schema pass. -/
def validateVariable (schema : EnvSchema) (env : Env) (name : EnvName) : Option (Option JsString) :=
  match schema name with
  | none => some (env name)
  | some variableSchema => variableSchema.validate readers (env name)

def EnvName.all : List EnvName :=
  [.nodeEnv, .logLevel, .port, .apiKeys, .mongodbUri, .elasticsearchNode, .kafkaBrokers,
    .kafkaClientId, .outboxPollIntervalMs, .outboxBatchSize, .outboxMaxAttempts,
    .outboxLockTimeoutMs, .outboxHealthPort, .indexerHealthPort]

/-- The environment after validation, unless a variable is refused. -/
def validateEnv (schema : EnvSchema) (env : Env) : Option Env :=
  if EnvName.all.all fun name => (validateVariable readers schema env name).isSome then
    some fun name => (validateVariable readers schema env name).getD none
  else none

/-! ### The configuration -/

structure AppConfig where
  apiKeys : List ApiKeyConfig
  logLevel : JsString
  nodeEnv : JsString
  port : NumberValue
  runtime : MessageManagementRuntime

structure KafkaConfig where
  brokers : Option (List JsString)
  clientId : JsString

structure OutboxConfig where
  batchSize : NumberValue
  healthPort : NumberValue
  lockTimeoutMs : NumberValue
  maxAttempts : NumberValue
  pollIntervalMs : NumberValue

structure RuntimeConfig where
  app : AppConfig
  elasticsearchNode : Option JsString
  kafka : KafkaConfig
  mongodbUri : Option JsString
  outbox : OutboxConfig
  searchIndexerHealthPort : NumberValue

def numberFromEnv (value : Option JsString) (defaultValue : Nat) : NumberValue :=
  match value with
  | none => .finite defaultValue
  | some text => readers.number text

def parseCsv (value : Option JsString) : Option (List JsString) :=
  match value.map brokerEntries with
  | none => none
  | some entries => if entries.length > 0 then some entries else none

def buildRuntimeConfig (runtime : MessageManagementRuntime) (processEnv : Env) : RuntimeConfig where
  app :=
    { apiKeys := parseApiKeys (processEnv .apiKeys)
      logLevel := (processEnv .logLevel).getD (jsString "info")
      nodeEnv := (processEnv .nodeEnv).getD (jsString "development")
      port := numberFromEnv readers (processEnv .port) 3000
      runtime }
  elasticsearchNode := processEnv .elasticsearchNode
  kafka :=
    { brokers := parseCsv (processEnv .kafkaBrokers)
      clientId := (processEnv .kafkaClientId).getD (jsString "message-management-api") }
  mongodbUri := processEnv .mongodbUri
  outbox :=
    { batchSize := numberFromEnv readers (processEnv .outboxBatchSize) 50
      healthPort := numberFromEnv readers (processEnv .outboxHealthPort) 3001
      lockTimeoutMs := numberFromEnv readers (processEnv .outboxLockTimeoutMs) 30000
      maxAttempts := numberFromEnv readers (processEnv .outboxMaxAttempts) 10
      pollIntervalMs := numberFromEnv readers (processEnv .outboxPollIntervalMs) 500 }
  searchIndexerHealthPort := numberFromEnv readers (processEnv .indexerHealthPort) 3002

/-- What a process starts with, if validation lets it start: the validated environment and the
configuration. The variables of the process and of its `.env` file are validated together; those
that the process did not have are then set as validated, and the configuration is read. -/
def forRuntime (runtime : MessageManagementRuntime) (file process : Env) :
    Option (Env × RuntimeConfig) :=
  (validateEnv readers (createRuntimeValidationSchema runtime)
    fun name => (process name).or (file name)).map fun validated =>
      (validated, buildRuntimeConfig readers runtime fun name =>
        (process name).or (validated name))

end Readers

/-! ### The settings by variable -/

def RuntimeConfig.numberOf (config : RuntimeConfig) : EnvName → Option NumberValue
  | .port => some config.app.port
  | .outboxPollIntervalMs => some config.outbox.pollIntervalMs
  | .outboxBatchSize => some config.outbox.batchSize
  | .outboxMaxAttempts => some config.outbox.maxAttempts
  | .outboxLockTimeoutMs => some config.outbox.lockTimeoutMs
  | .outboxHealthPort => some config.outbox.healthPort
  | .indexerHealthPort => some config.searchIndexerHealthPort
  | _ => none

/-- The number that the configuration takes where a variable is not set. -/
def EnvName.defaultNumber : EnvName → Option Nat
  | .port => some 3000
  | .outboxPollIntervalMs => some 500
  | .outboxBatchSize => some 50
  | .outboxMaxAttempts => some 10
  | .outboxLockTimeoutMs => some 30000
  | .outboxHealthPort => some 3001
  | .indexerHealthPort => some 3002
  | _ => none

def RuntimeConfig.textOf (config : RuntimeConfig) : EnvName → Option JsString
  | .nodeEnv => some config.app.nodeEnv
  | .logLevel => some config.app.logLevel
  | .mongodbUri => config.mongodbUri
  | .elasticsearchNode => config.elasticsearchNode
  | .kafkaClientId => some config.kafka.clientId
  | _ => none

/-- The text that the configuration takes where a variable is not set. -/
def EnvName.defaultText : EnvName → Option JsString
  | .nodeEnv => some (jsString "development")
  | .logLevel => some (jsString "info")
  | .kafkaClientId => some (jsString "message-management-api")
  | _ => none

/-- The names whose settings are texts. -/
def EnvName.isText : EnvName → Bool
  | .nodeEnv => true
  | .logLevel => true
  | .mongodbUri => true
  | .elasticsearchNode => true
  | .kafkaClientId => true
  | _ => false

section Readers

variable {readers : EnvReaders} {runtime : MessageManagementRuntime}

theorem numberOf_buildRuntimeConfig (env : Env) (name : EnvName) :
    (buildRuntimeConfig readers runtime env).numberOf name =
      name.defaultNumber.map (numberFromEnv readers (env name)) := by
  cases name <;> rfl

theorem textOf_buildRuntimeConfig (env : Env) {name : EnvName} (isText : name.isText = true) :
    (buildRuntimeConfig readers runtime env).textOf name =
      (env name).or name.defaultText := by
  cases name with
  | nodeEnv => exact Option.or_some.symm
  | logLevel => exact Option.or_some.symm
  | mongodbUri => exact Option.or_none.symm
  | elasticsearchNode => exact Option.or_none.symm
  | kafkaClientId => exact Option.or_some.symm
  | _ => cases isText

/-- The schema of a variable is about what the configuration reads of it, and accepts the default
that both have. -/
def VariableSchema.fits (name : EnvName) : VariableSchema → Bool
  | .oneOf values default =>
    name.isText && name.defaultText == some default && values.contains default
  | .number least most default =>
    name.defaultNumber == some default && least ≤ default && most.all (default ≤ ·) &&
      default ≤ MAX_SAFE_INTEGER
  | .apiKeys => name == .apiKeys
  | .uri _ _ => name.isText && name.defaultText == none
  | .brokers _ => name == .kafkaBrokers
  | .clientId default =>
    name == .kafkaClientId && name.defaultText == some default && trim default == default &&
      1 ≤ default.length

theorem fits_schema (runtime : MessageManagementRuntime) (name : EnvName) :
    (createRuntimeValidationSchema runtime name).all (·.fits name) = true := by
  cases runtime <;> cases name <;> rfl

theorem validateEnv_eq_some {schema : EnvSchema} {env validated : Env}
    (accepted : validateEnv readers schema env = some validated) (name : EnvName) :
    validateVariable readers schema env name = some (validated name) := by
  unfold validateEnv at accepted
  split at accepted
  · rename_i all
    have known : name ∈ EnvName.all := by cases name <;> decide
    obtain ⟨value, isValue⟩ := Option.isSome_iff_exists.mp (List.all_eq_true.mp all name known)
    rw [← Option.some.inj accepted]
    dsimp only
    rw [isValue, Option.getD_some]
  · cases accepted

/-! ### The two readings of a variable -/

section Variable

variable {process file validated : Option JsString}

/-- A number is read as it was validated, from the text that the process has or from the text of
the validated number. -/
theorem numberFromEnv_validated {least default : Nat} {most : Option Nat}
    (above : least ≤ default) (below : ∀ bound, most = some bound → default ≤ bound)
    (isSafe : default ≤ MAX_SAFE_INTEGER)
    (accepted : (VariableSchema.number least most default).validate readers (process.or file) =
      some validated) :
    ∃ value : Nat, validated = some (decimal value) ∧ least ≤ value ∧
      (∀ bound, most = some bound → value ≤ bound) ∧
      ∀ other, numberFromEnv readers (process.or validated) other = .finite value := by
  cases given : process.or file with
  | none =>
    rw [given] at accepted
    obtain rfl := Option.some.inj accepted
    obtain ⟨rfl, _⟩ := Option.or_eq_none_iff.mp given
    exact ⟨default, rfl, above, below, fun _ => readers.prints default isSafe⟩
  | some text =>
    rw [given] at accepted
    obtain ⟨value, converted, rfl⟩ := Option.map_eq_some_iff.mp accepted
    obtain ⟨read, isRead, within⟩ := Option.bind_eq_some_iff.mp converted
    obtain ⟨isInteger, above, below⟩ := NumberValue.naturalWithin_eq_some.mp within
    refine ⟨value, rfl, above, below, fun _ => ?_⟩
    cases process with
    | none => exact readers.prints value (readers.safe text read value isRead isInteger)
    | some own =>
      obtain rfl := Option.some.inj given
      exact (readers.converts own read isRead).trans (NumberValue.eq_finite_of_integer? isInteger)

/-- What validation makes of a list of brokers has the same entries. -/
theorem validateBrokers_eq_some {text normal : JsString}
    (accepted : validateBrokers text = some normal) :
    brokerEntries normal = brokerEntries text ∧ normal = Separated.join COMMA (brokerEntries text) ∧
      brokerEntries text ≠ [] ∧ ∀ broker ∈ brokerEntries text, COLON ∈ broker := by
  unfold validateBrokers at accepted
  dsimp only at accepted
  split at accepted
  · cases accepted
  · rename_i some_
    rw [Bool.or_eq_true, not_or, beq_iff_eq, List.length_eq_zero_iff, Bool.not_eq_true,
      List.any_eq_false] at some_
    obtain rfl := Option.some.inj accepted
    refine ⟨Separated.entries_join_entries text, rfl, some_.1, fun broker member => ?_⟩
    have hasPort := some_.2 broker member
    rw [Bool.not_eq_true, Bool.not_eq_false', decide_eq_true_eq] at hasPort
    exact hasPort

theorem parseCsv_some {text : JsString} (nonempty : brokerEntries text ≠ []) :
    parseCsv (some text) = some (brokerEntries text) :=
  if_pos (List.length_pos_iff.mpr nonempty)

/-- Each broker is some text with a port, and is read as it was validated. -/
structure ReadsBrokers (validated : Option JsString) (brokers : List JsString) : Prop where
  ne_nil : brokers ≠ []
  entries : ∀ broker ∈ brokers, Separated.IsEntry COMMA isTrimmed broker
  ports : ∀ broker ∈ brokers, COLON ∈ broker
  joined : validated = some (Separated.join COMMA brokers)

theorem parseCsv_validated {required : Bool}
    (accepted : (VariableSchema.brokers required).validate readers (process.or file) =
      some validated) :
    (required = false ∧ validated = none ∧ parseCsv (process.or validated) = none) ∨
      ∃ brokers, parseCsv (process.or validated) = some brokers ∧
        ReadsBrokers validated brokers := by
  cases given : process.or file with
  | none =>
    rw [given] at accepted
    obtain ⟨rfl, _⟩ := Option.or_eq_none_iff.mp given
    obtain ⟨optional, isNone⟩ := Option.ite_none_left_eq_some.mp accepted
    obtain rfl := Option.some.inj isNone
    exact Or.inl ⟨Bool.eq_false_iff.mpr optional, rfl, rfl⟩
  | some text =>
    rw [given] at accepted
    obtain ⟨normal, isNormal, rfl⟩ := Option.map_eq_some_iff.mp accepted
    obtain ⟨same, joined, nonempty, ports⟩ := validateBrokers_eq_some isNormal
    refine Or.inr ⟨brokerEntries text, ?_, nonempty,
      fun _ member => Separated.isEntry_of_mem_entries member, ports, congrArg some joined⟩
    cases process with
    | none =>
      rw [Option.none_or, parseCsv_some (same ▸ nonempty), same]
    | some own =>
      obtain rfl := Option.some.inj given
      exact parseCsv_some nonempty

theorem choice_validated {values : List JsString} {default : JsString} (known : default ∈ values)
    (accepted : (VariableSchema.oneOf values default).validate readers (process.or file) =
      some validated) :
    ∃ text ∈ values, validated = some text ∧ process.or validated = some text := by
  cases given : process.or file with
  | none =>
    rw [given] at accepted
    obtain ⟨rfl, _⟩ := Option.or_eq_none_iff.mp given
    obtain rfl := Option.some.inj accepted
    exact ⟨default, known, rfl, rfl⟩
  | some text =>
    rw [given] at accepted
    obtain ⟨member, same⟩ := Option.ite_none_right_eq_some.mp accepted
    obtain rfl := Option.some.inj same
    refine ⟨text, List.contains_iff_mem.mp member, rfl, ?_⟩
    cases process with
    | none => rfl
    | some own => exact given

theorem uri_validated {schemes : List JsString} {required : Bool}
    (accepted : (VariableSchema.uri schemes required).validate readers (process.or file) =
      some validated) :
    process.or validated = validated ∧ (required = true → validated ≠ none) ∧
      ∀ text, validated = some text → readers.isUri schemes text = true := by
  cases given : process.or file with
  | none =>
    rw [given] at accepted
    obtain ⟨rfl, _⟩ := Option.or_eq_none_iff.mp given
    obtain ⟨optional, isNone⟩ := Option.ite_none_left_eq_some.mp accepted
    obtain rfl := Option.some.inj isNone
    exact ⟨rfl, fun required => absurd required optional, fun _ absent => by cases absent⟩
  | some text =>
    rw [given] at accepted
    obtain ⟨isUri, same⟩ := Option.ite_none_right_eq_some.mp accepted
    obtain rfl := Option.some.inj same
    refine ⟨?_, fun _ => Option.some_ne_none text, fun other same => ?_⟩
    · cases process with
      | none => rfl
      | some own => exact given
    · rw [← Option.some.inj same]
      exact isUri

/-- The client id is trimmed by validation only. -/
theorem clientId_validated {default : JsString} (trimmed : trim default = default)
    (nonempty : default ≠ [])
    (accepted : (VariableSchema.clientId default).validate readers (process.or file) =
      some validated) :
    ∃ text, process.or validated = some text ∧ validated = some (trim text) ∧ trim text ≠ [] := by
  cases given : process.or file with
  | none =>
    rw [given] at accepted
    obtain ⟨rfl, _⟩ := Option.or_eq_none_iff.mp given
    obtain rfl := Option.some.inj accepted
    exact ⟨default, rfl, congrArg some trimmed.symm, trimmed.symm ▸ nonempty⟩
  | some text =>
    rw [given] at accepted
    obtain ⟨positive, same⟩ := Option.ite_none_right_eq_some.mp accepted
    obtain rfl := Option.some.inj same
    have worded : trim text ≠ [] := List.length_pos_iff.mp positive
    have again : trim (trim text) = trim text := Separated.trim_trim
    cases process with
    | none => exact ⟨trim text, rfl, congrArg some again.symm, again.symm ▸ worded⟩
    | some own =>
      obtain rfl := Option.some.inj given
      exact ⟨own, rfl, rfl, worded⟩

theorem apiKeys_validated
    (accepted : VariableSchema.apiKeys.validate readers (process.or file) = some validated) :
    ∃ text, validated = some text ∧
      WrittenApiKeys (parseApiKeys (process.or validated)) text := by
  cases given : process.or file with
  | none =>
    rw [given] at accepted
    cases accepted
  | some text =>
    rw [given] at accepted
    obtain ⟨accepts, same⟩ := Option.ite_none_right_eq_some.mp accepted
    obtain rfl := Option.some.inj same
    obtain ⟨entries, written⟩ := validatesApiKeys_iff.mp accepts
    have read : process.or (some text) = some text := by
      cases process with
      | none => rfl
      | some own => exact given
    refine ⟨text, rfl, ?_⟩
    rw [read, written.parseApiKeys]
    exact written

end Variable

/-! ### What a process starts with -/

variable (readers) in
/-- Every setting is the value that validation accepted for its variable. -/
structure Configured (schema : EnvSchema) (validated : Env) (config : RuntimeConfig) : Prop where
  numbers : ∀ name least most default, schema name = some (.number least most default) →
    ∃ value : Nat, config.numberOf name = some (.finite value) ∧
      validated name = some (decimal value) ∧ least ≤ value ∧
      ∀ bound, most = some bound → value ≤ bound
  choices : ∀ name values default, schema name = some (.oneOf values default) →
    ∃ text ∈ values, config.textOf name = some text ∧ validated name = some text
  uris : ∀ name schemes required, schema name = some (.uri schemes required) →
    config.textOf name = validated name ∧ (required = true → validated name ≠ none) ∧
      ∀ text, validated name = some text → readers.isUri schemes text = true
  brokers : ∀ required, schema .kafkaBrokers = some (.brokers required) →
    (required = false ∧ validated .kafkaBrokers = none ∧ config.kafka.brokers = none) ∨
      ∃ brokers, config.kafka.brokers = some brokers ∧
        ReadsBrokers (validated .kafkaBrokers) brokers
  clientId : ∀ default, schema .kafkaClientId = some (.clientId default) →
    validated .kafkaClientId = some (trim config.kafka.clientId) ∧
      trim config.kafka.clientId ≠ []
  apiKeys : schema .apiKeys = some .apiKeys →
    ∃ text, validated .apiKeys = some text ∧ WrittenApiKeys config.app.apiKeys text

theorem configured_of_started {file process validated : Env} {config : RuntimeConfig}
    (started : forRuntime readers runtime file process = some (validated, config)) :
    Configured readers (createRuntimeValidationSchema runtime) validated config := by
  obtain ⟨env, accepted, same⟩ := Option.map_eq_some_iff.mp started
  obtain ⟨rfl, rfl⟩ := Prod.mk.inj same
  have each : ∀ name schema, createRuntimeValidationSchema runtime name = some schema →
      schema.fits name = true ∧
        schema.validate readers ((process name).or (file name)) = some (env name) := by
    intro name schema isSchema
    have fits := fits_schema runtime name
    have valid := validateEnv_eq_some accepted name
    rw [isSchema, Option.all_some] at fits
    rw [validateVariable, isSchema] at valid
    exact ⟨fits, valid⟩
  refine ⟨?_, ?_, ?_, ?_, ?_, ?_⟩
  · intro name least most default isSchema
    obtain ⟨fits, valid⟩ := each name _ isSchema
    simp only [VariableSchema.fits, Bool.and_eq_true, beq_iff_eq, decide_eq_true_eq] at fits
    obtain ⟨⟨⟨isDefault, above⟩, below⟩, isSafe⟩ := fits
    have below : ∀ bound, most = some bound → default ≤ bound := by
      rintro bound rfl
      exact of_decide_eq_true below
    obtain ⟨value, isValue, above, below, read⟩ :=
      numberFromEnv_validated above below isSafe valid
    refine ⟨value, ?_, isValue, above, below⟩
    rw [numberOf_buildRuntimeConfig, isDefault, Option.map_some, read]
  · intro name values default isSchema
    obtain ⟨fits, valid⟩ := each name _ isSchema
    simp only [VariableSchema.fits, Bool.and_eq_true, beq_iff_eq] at fits
    obtain ⟨⟨isText, isDefault⟩, known⟩ := fits
    obtain ⟨text, member, isValidated, read⟩ :=
      choice_validated (List.contains_iff_mem.mp known) valid
    refine ⟨text, member, ?_, isValidated⟩
    rw [textOf_buildRuntimeConfig _ isText, read, Option.some_or]
  · intro name schemes required isSchema
    obtain ⟨fits, valid⟩ := each name _ isSchema
    simp only [VariableSchema.fits, Bool.and_eq_true, beq_iff_eq] at fits
    obtain ⟨same, required, isUri⟩ := uri_validated valid
    refine ⟨?_, required, isUri⟩
    rw [textOf_buildRuntimeConfig _ fits.1, fits.2, Option.or_none, same]
  · intro required isSchema
    obtain ⟨_, valid⟩ := each _ _ isSchema
    exact parseCsv_validated valid
  · intro default isSchema
    obtain ⟨fits, valid⟩ := each _ _ isSchema
    simp only [VariableSchema.fits, Bool.and_eq_true, beq_iff_eq, decide_eq_true_eq] at fits
    obtain ⟨⟨_, trimmed⟩, positive⟩ := fits
    obtain ⟨text, read, isValidated, worded⟩ :=
      clientId_validated trimmed (List.length_pos_iff.mp positive) valid
    have isRead : (buildRuntimeConfig readers runtime fun name =>
        (process name).or (env name)).kafka.clientId = text := by
      rw [buildRuntimeConfig]
      dsimp only
      rw [read, Option.getD_some]
    rw [isRead]
    exact ⟨isValidated, worded⟩
  · intro isSchema
    obtain ⟨_, valid⟩ := each _ _ isSchema
    exact apiKeys_validated valid

/-- The settings of the outbox are those of a publisher, which claims at least one row a run and
leases it for a second or more. -/
structure ConfiguresPublisher (config : RuntimeConfig) (publisher : PublisherConfig) : Prop where
  batchSize : config.outbox.batchSize = .finite publisher.batchSize
  lockTimeoutMs : config.outbox.lockTimeoutMs = .finite publisher.lockTimeoutMs
  maxAttempts : config.outbox.maxAttempts = .finite publisher.maxAttempts
  claims : 1 ≤ publisher.batchSize
  leases : 1000 ≤ publisher.lockTimeoutMs

theorem Configured.publisher {validated : Env} {config : RuntimeConfig}
    (configured : Configured readers (createRuntimeValidationSchema .outboxPublisher) validated
      config) :
    ∃ publisher, ConfiguresPublisher config publisher := by
  obtain ⟨batchSize, isBatchSize, _, claims, _⟩ := configured.numbers .outboxBatchSize _ _ _ rfl
  obtain ⟨lockTimeoutMs, isTimeout, _, leases, _⟩ :=
    configured.numbers .outboxLockTimeoutMs _ _ _ rfl
  obtain ⟨maxAttempts, isAttempts, _, attempts, _⟩ :=
    configured.numbers .outboxMaxAttempts _ _ _ rfl
  exact ⟨⟨batchSize, lockTimeoutMs, maxAttempts, by omega, by omega⟩, Option.some.inj isBatchSize,
    Option.some.inj isTimeout, Option.some.inj isAttempts, claims, Int.ofNat_le.mpr leases⟩

/-- Whatever the environment and the `.env` file hold: a process that starts is configured as
validated, and a publisher as the publisher system assumes. -/
theorem runtime_config_validated {file process validated : Env} {config : RuntimeConfig}
    (started : forRuntime readers runtime file process = some (validated, config)) :
    Configured readers (createRuntimeValidationSchema runtime) validated config ∧
      (runtime = .outboxPublisher → ∃ publisher, ConfiguresPublisher config publisher) := by
  have configured := configured_of_started started
  refine ⟨configured, ?_⟩
  rintro rfl
  exact configured.publisher

end Readers

/-! ### A publisher that starts -/

def isDigits (text : JsString) : Bool := !text.isEmpty && text.all isDigit

theorem isDigits_decimal (natural : Nat) : isDigits (decimal natural) = true := by
  rw [isDigits, Bool.and_eq_true, Bool.not_eq_true', List.isEmpty_eq_false_iff, List.all_eq_true]
  refine ⟨fun empty => ?_, fun unit member => isDigit_of_mem_digits unit member⟩
  rw [decimal, digits] at empty
  exact List.cons_ne_nil _ _ (List.append_eq_nil_iff.mp empty).2

/-- Readers that know numbers in digits, and URIs by the begin of their schemes. -/
def digitReaders : EnvReaders where
  number text := if isDigits text then .finite (digitsValue text) else .nan
  joiNumber text :=
    if isDigits text && digitsValue text ≤ MAX_SAFE_INTEGER then some (.finite (digitsValue text))
    else none
  isUri schemes text := schemes.any fun scheme => (scheme ++ jsString "://").isPrefixOf text
  converts text value read := by
    obtain ⟨accepted, same⟩ := Option.ite_none_right_eq_some.mp read
    rw [Bool.and_eq_true] at accepted
    rw [if_pos accepted.1]
    exact Option.some.inj same
  safe text value natural read isInteger := by
    obtain ⟨accepted, same⟩ := Option.ite_none_right_eq_some.mp read
    rw [Bool.and_eq_true, decide_eq_true_eq] at accepted
    have isFinite := NumberValue.eq_finite_of_integer? isInteger
    rw [← Option.some.inj same, NumberValue.finite.injEq, Int.cast_natCast, Nat.cast_inj]
      at isFinite
    exact isFinite ▸ accepted.2
  prints natural _ := by
    have value : digitsValue (decimal natural) = natural :=
      LawfulJsNumber.ofLiteral_toText natural rfl
    rw [if_pos (isDigits_decimal natural), value]

/-- The brokers of the process are written with blanks and an empty entry; the batch size is that
of the file. -/
def publisherProcess : Env
  | .mongodbUri => some (jsString "mongodb://mongo:27017")
  | .kafkaBrokers => some (jsString "kafka:9092, ,other:9093")
  | _ => none

def publisherFile : Env
  | .outboxBatchSize => some (jsString "020")
  | _ => none

theorem runtime_config_validated_publisher :
    ∃ validated config, forRuntime digitReaders .outboxPublisher publisherFile publisherProcess =
        some (validated, config) ∧
      config.kafka.brokers = some [jsString "kafka:9092", jsString "other:9093"] ∧
      Configured digitReaders (createRuntimeValidationSchema .outboxPublisher) validated config ∧
      ∃ publisher, ConfiguresPublisher config publisher := by
  have starts : (forRuntime digitReaders .outboxPublisher publisherFile publisherProcess).any
      (fun started => decide (started.2.kafka.brokers =
        some [jsString "kafka:9092", jsString "other:9093"])) = true := by
    decide +kernel
  obtain ⟨⟨validated, config⟩, started, brokers⟩ := (Option.any_eq_true _ _).mp starts
  obtain ⟨configured, publisher⟩ := runtime_config_validated started
  exact ⟨validated, config, started, of_decide_eq_true brokers, configured, publisher rfl⟩

end MessageManagement
