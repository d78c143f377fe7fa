/-
This file models the command line of the outbox redrive: how the options of
`outbox:redrive` are read, what input they become, and the run of any number of
such commands among publishers and each other.

A command without `--confirm`, or with `--dry-run`, changes no row. One that is
confirmed never changes more rows than its `--limit`, and without a limit it must
name rows, so that no command resets the whole outbox.

`Number`, which reads the text of a limit, is arithmetic of the language that
nothing here depends on: it is a parameter.
-/

import MessageManagement.ApiKeys
import MessageManagement.EventFormat
import MessageManagement.Library.Numbers
import MessageManagement.OutboxRedrive

namespace MessageManagement

variable {Run Instance Payload : Type}

/-! ### Reading options -/

/-- The `Error` a command throws. -/
structure CommandError where
  message : JsString

/-- Only what is an integer and not less than one passes. -/
def parsePositiveInteger (number : JsString → NumberValue) (value optionName : JsString) :
    Except CommandError Nat :=
  match (number value).naturalWithin 1 none with
  | some parsed => .ok parsed
  | none => .error ⟨optionName ++ jsString " must be a positive integer."⟩

def parseCsvOption (value optionName : JsString) : Except CommandError (List JsString) :=
  let parsed := ((value.splitOn COMMA).map trim).filter fun entry => !entry.isEmpty
  if parsed.length == 0 then .error ⟨optionName ++ jsString " must include at least one value."⟩
  else .ok parsed

/-- An option of `outbox:redrive` on the command line, with its text. -/
inductive OutboxRedriveFlag
  | confirm
  | dryRun
  | eventIds (value : JsString)
  | ids (value : JsString)
  | limit (value : JsString)

structure OutboxRedriveOptions where
  confirm : Option Bool
  dryRun : Option Bool
  eventIds : Option (List JsString)
  ids : Option (List JsString)
  limit : Option Nat

namespace OutboxRedriveOptions

def empty : OutboxRedriveOptions where
  confirm := none
  dryRun := none
  eventIds := none
  ids := none
  limit := none

/-- One option, read by its `parse…` method. -/
def read (number : JsString → NumberValue) (options : OutboxRedriveOptions) :
    OutboxRedriveFlag → Except CommandError OutboxRedriveOptions
  | .confirm => .ok { options with confirm := some true }
  | .dryRun => .ok { options with dryRun := some true }
  | .eventIds value =>
    (parseCsvOption value (jsString "--event-id")).map fun parsed =>
      { options with eventIds := some parsed }
  | .ids value =>
    (parseCsvOption value (jsString "--id")).map fun parsed => { options with ids := some parsed }
  | .limit value =>
    (parsePositiveInteger number value (jsString "--limit")).map fun parsed =>
      { options with limit := some parsed }

/-- The options on a command line; the last of equal options counts. -/
def readAll (number : JsString → NumberValue) (flags : List OutboxRedriveFlag) :
    Except CommandError OutboxRedriveOptions :=
  flags.foldlM (read number) empty

/-- `dryRun` of the command. -/
def isDryRun (options : OutboxRedriveOptions) : Bool :=
  options.dryRun == some true || options.confirm != some true

def selectorCount (options : OutboxRedriveOptions) : Nat :=
  (options.ids.map List.length).getD 0 + (options.eventIds.map List.length).getD 0

/-- `limit` of the command: a preview without one shows twenty rows. -/
def limitOrDefault (options : OutboxRedriveOptions) : Option Nat :=
  match options.limit with
  | some limit => some limit
  | none => if options.isDryRun then some 20 else none

/-- The input that `run` calls `redriveFailed` with. -/
def input (options : OutboxRedriveOptions) (now : Int) :
    Except CommandError RedriveFailedOutboxInput :=
  if !options.isDryRun && options.selectorCount == 0 && options.limitOrDefault == none then
    .error ⟨jsString "Pass --limit, --id, or --event-id with --confirm for outbox:redrive."⟩
  else
    .ok
      { dryRun := options.isDryRun
        eventIds := options.eventIds.getD []
        ids := options.ids.getD []
        limit := options.limitOrDefault
        now }

end OutboxRedriveOptions

/-! ### What the options of a command are -/

theorem exists_of_map_eq_ok {Error Value Result : Type} {convert : Value → Result}
    {value? : Except Error Value} {result : Result} (mapped : value?.map convert = .ok result) :
    ∃ value, value? = .ok value ∧ convert value = result := by
  cases value? with
  | error error => cases mapped
  | ok value => exact ⟨value, rfl, Except.ok.inj mapped⟩

theorem parsePositiveInteger_pos {number : JsString → NumberValue} {value optionName : JsString}
    {parsed : Nat} (read : parsePositiveInteger number value optionName = .ok parsed) :
    1 ≤ parsed := by
  unfold parsePositiveInteger at read
  split at read
  · rename_i found accepted
    rw [← Except.ok.inj read]
    exact (NumberValue.naturalWithin_eq_some.mp accepted).2.1
  · cases read

theorem parseCsvOption_ne_nil {value optionName : JsString} {parsed : List JsString}
    (read : parseCsvOption value optionName = .ok parsed) : parsed ≠ [] := by
  unfold parseCsvOption at read
  dsimp only at read
  split at read
  · cases read
  · rename_i some_
    rintro rfl
    rw [Except.ok.inj read] at some_
    exact some_ rfl

/-- What the parsers see to. -/
structure OutboxRedriveOptions.Sound (options : OutboxRedriveOptions) : Prop where
  eventIds : ∀ eventIds, options.eventIds = some eventIds → eventIds ≠ []
  ids : ∀ ids, options.ids = some ids → ids ≠ []
  limit : ∀ limit, options.limit = some limit → 1 ≤ limit


namespace OutboxRedriveOptions

theorem Sound.empty : OutboxRedriveOptions.empty.Sound where
  eventIds _ given := nomatch given
  ids _ given := nomatch given
  limit _ given := nomatch given

theorem Sound.read {number : JsString → NumberValue} {options next : OutboxRedriveOptions}
    {flag : OutboxRedriveFlag} (sound : options.Sound)
    (given : options.read number flag = .ok next) : next.Sound := by
  cases flag with
  | confirm =>
    obtain rfl := Except.ok.inj given
    exact { sound with }
  | dryRun =>
    obtain rfl := Except.ok.inj given
    exact { sound with }
  | eventIds value =>
    obtain ⟨eventIds, parsed, rfl⟩ := exists_of_map_eq_ok given
    refine { sound with eventIds := ?_ }
    rintro _ ⟨⟩
    exact parseCsvOption_ne_nil parsed
  | ids value =>
    obtain ⟨ids, parsed, rfl⟩ := exists_of_map_eq_ok given
    refine { sound with ids := ?_ }
    rintro _ ⟨⟩
    exact parseCsvOption_ne_nil parsed
  | limit value =>
    obtain ⟨limit, parsed, rfl⟩ := exists_of_map_eq_ok given
    refine { sound with limit := ?_ }
    rintro _ ⟨⟩
    exact parsePositiveInteger_pos parsed

theorem Sound.readAll {number : JsString → NumberValue} {flags : List OutboxRedriveFlag}
    {options : OutboxRedriveOptions} (given : readAll number flags = .ok options) :
    options.Sound := by
  have all : ∀ flags start, Sound start → List.foldlM (OutboxRedriveOptions.read number) start
      flags = .ok options → options.Sound := by
    intro flags
    induction flags with
    | nil =>
      intro start sound given
      exact Except.ok.inj given ▸ sound
    | cons flag rest inductionHypothesis =>
      intro start sound given
      rw [List.foldlM_cons] at given
      cases first : OutboxRedriveOptions.read number start flag with
      | error error =>
        rw [first] at given
        cases given
      | ok next =>
        rw [first] at given
        exact inductionHypothesis next (sound.read first) given
  exact all flags _ Sound.empty given

/-- The command names the row, by its `_id` or by its event. -/
def Names (options : OutboxRedriveOptions) (id : ObjectId)
    (row : OutboxEventEntity Instance Payload) : Prop :=
  (∃ ids, options.ids = some ids ∧ ∃ text ∈ ids, ObjectId.ofHexString text = id) ∨
    ∃ eventIds, options.eventIds = some eventIds ∧ row.eventId ∈ eventIds

/-- The command may reset the row: it names it, or names no rows and has a limit. -/
def MayReset (options : OutboxRedriveOptions) (id : ObjectId)
    (row : OutboxEventEntity Instance Payload) : Prop :=
  options.isDryRun = false ∧
    (options.Names id row ∨
      options.ids = none ∧ options.eventIds = none ∧ options.limit ≠ none)

/-- What the input of a command that is not refused says. -/
theorem input_eq_ok {options : OutboxRedriveOptions} {now : Int} {input : RedriveFailedOutboxInput}
    (given : options.input now = .ok input) :
    ¬ (!options.isDryRun && options.selectorCount == 0 && options.limitOrDefault == none) = true ∧
      input =
        { dryRun := options.isDryRun
          eventIds := options.eventIds.getD []
          ids := options.ids.getD []
          limit := options.limitOrDefault
          now } := by
  unfold OutboxRedriveOptions.input at given
  split at given
  · cases given
  · rename_i allowed
    exact ⟨allowed, (Except.ok.inj given).symm⟩

/-- Values that an option was given, or none. -/
theorem mem_getD_nil {values? : Option (List JsString)} {text : JsString}
    (member : text ∈ values?.getD []) : ∃ values, values? = some values ∧ text ∈ values := by
  cases values? with
  | none => exact absurd member List.not_mem_nil
  | some values => exact ⟨values, rfl, member⟩

theorem eq_none_of_getD {values? : Option (List JsString)}
    (nonempty : ∀ values, values? = some values → values ≠ []) (none_ : values?.getD [] = []) :
    values? = none := by
  cases values? with
  | none => rfl
  | some values => exact absurd none_ (nonempty values rfl)

/-- What the input of a confirmed command selects, the command may reset. -/
theorem Sound.mayReset {options : OutboxRedriveOptions} (sound : options.Sound) {now : Int}
    {input : RedriveFailedOutboxInput} (given : options.input now = .ok input)
    (confirmed : input.dryRun = false) {id : ObjectId} {row : OutboxEventEntity Instance Payload}
    (selects : Selects input id row) : options.MayReset id row := by
  obtain ⟨allowed, rfl⟩ := input_eq_ok given
  have confirmed : options.isDryRun = false := confirmed
  refine ⟨confirmed, ?_⟩
  obtain ⟨-, ⟨noIds, noEventIds⟩ | ⟨text, member, isId⟩ | member⟩ := selects
  · have noIds : options.ids = none := eq_none_of_getD sound.ids noIds
    have noEventIds : options.eventIds = none := eq_none_of_getD sound.eventIds noEventIds
    refine Or.inr ⟨noIds, noEventIds, fun noLimit => allowed ?_⟩
    rw [limitOrDefault, selectorCount, confirmed, noIds, noEventIds, noLimit]
    rfl
  · obtain ⟨ids, given, member⟩ := mem_getD_nil member
    exact Or.inl (Or.inl ⟨ids, given, text, member, isId⟩)
  · obtain ⟨eventIds, given, member⟩ := mem_getD_nil member
    exact Or.inl (Or.inr ⟨eventIds, given, member⟩)

/-- A limit on the command line is the limit of the input. -/
theorem Sound.rowLimit {options : OutboxRedriveOptions} (sound : options.Sound) {now : Int}
    {input : RedriveFailedOutboxInput} (given : options.input now = .ok input) {limit : Nat}
    (limited : options.limit = some limit) : input.rowLimit = some limit := by
  obtain ⟨-, rfl⟩ := input_eq_ok given
  rw [RedriveFailedOutboxInput.rowLimit, limitOrDefault, limited, Option.filter_some,
    if_pos (decide_eq_true (sound.limit limit limited))]

end OutboxRedriveOptions

/-! ### Commands among other writers -/

/-- The outbox and the calls of `redriveFailed`, with the options of the command each was made
by. -/
structure OutboxCommandState (Run Instance Payload : Type) where
  redrive : OutboxRedriveState Run Instance Payload
  options : Run → Option OutboxRedriveOptions

def OutboxCommandState.start (outbox : OutboxCollection Instance Payload) :
    OutboxCommandState Run Instance Payload where
  redrive := .start outbox
  options _ := none

/-- `invoke` starts a command; the others are steps of the calls and of other writers. -/
inductive OutboxCommandLabel (Run Instance Payload : Type)
  | invoke (run : Run) (flags : List OutboxRedriveFlag) (now : Int)
  | update (run : Run) (rows : List ObjectId)
  | finish (run : Run)
  | other (action : OutboxAction Instance Payload)

/-- The command that makes the step. -/
def OutboxCommandLabel.run? : OutboxCommandLabel Run Instance Payload → Option Run
  | .invoke run _ _ => some run
  | .update run _ => some run
  | .finish run => some run
  | .other _ => none

section Steps

variable [DecidableEq Run] [DecidableEq Instance]

/-- A command that throws before its call leaves no trace. -/
def outboxCommandStep (number : JsString → NumberValue) (config : PublisherConfig)
    (state : OutboxCommandState Run Instance Payload) :
    OutboxCommandLabel Run Instance Payload → Option (OutboxCommandState Run Instance Payload)
  | .invoke run flags now =>
    match OutboxRedriveOptions.readAll number flags with
    | .error _ => some state
    | .ok options =>
      match options.input now with
      | .error _ => some state
      | .ok input =>
        (outboxRedriveStep config state.redrive (.find run input)).map fun redrive =>
          { redrive, options := Function.update state.options run (some options) }
  | .update run rows =>
    (outboxRedriveStep config state.redrive (.update run rows)).map fun redrive =>
      { state with redrive }
  | .finish run =>
    (outboxRedriveStep config state.redrive (.finish run)).map fun redrive =>
      { state with redrive }
  | .other action =>
    (outboxRedriveStep config state.redrive (.other action)).map fun redrive =>
      { state with redrive }

/-! ### What a command keeps -/

/-- How many rows a call has modified. -/
def OutboxRedrivePhase.modifiedCount : OutboxRedrivePhase → Nat
  | .updating _ _ _ modified => modified
  | .settled (.ok result) => result.modifiedCount
  | .settled (.error _) => 0

/-- What holds between the options of a command and where its call is. -/
inductive OutboxRedriveOptions.Governs (options : OutboxRedriveOptions)
    (outbox : OutboxCollection Instance Payload) : OutboxRedrivePhase → Prop
  | updating {input events remaining modified} (confirmed : options.isDryRun = false)
      (distinct : remaining.Nodup)
      (bounded : ∀ limit, options.limit = some limit → modified + remaining.length ≤ limit)
      (known : ∀ id ∈ remaining, id ∈ outbox.keys)
      (mayReset : ∀ id ∈ remaining, ∀ row, outbox.find id = some row → options.MayReset id row) :
      options.Governs outbox (.updating input events remaining modified)
  | settled {result} (preview : options.isDryRun = true →
        (OutboxRedrivePhase.settled result).modifiedCount = 0)
      (bounded : ∀ limit, options.limit = some limit →
        (OutboxRedrivePhase.settled result).modifiedCount ≤ limit) :
      options.Governs outbox (.settled result)

end Steps

/-- Whether a command may reset a row depends on what the row announces. -/
theorem OutboxRedriveOptions.MayReset.announced {options : OutboxRedriveOptions} {id : ObjectId}
    {before after : OutboxEventEntity Instance Payload} (may : options.MayReset id before)
    (same : after.announced = before.announced) : options.MayReset id after := by
  have sameEvent : after.eventId = before.eventId := congrArg AnnouncedEvent.eventId same
  unfold OutboxRedriveOptions.MayReset OutboxRedriveOptions.Names at may ⊢
  rw [sameEvent]
  exact may

/-- The rows of the later outbox that the earlier one knew announce what they did. -/
structure KeepsAnnounced (outbox next : OutboxCollection Instance Payload) : Prop where
  keys : ∀ id ∈ outbox.keys, id ∈ next.keys
  rows : ∀ id ∈ outbox.keys, ∀ after, next.find id = some after →
    ∃ before, outbox.find id = some before ∧ after.announced = before.announced

theorem keepsAnnounced_redriveSelected (selected : List ObjectId) (now : Int)
    (outbox : OutboxCollection Instance Payload) :
    KeepsAnnounced outbox (redriveSelected selected now outbox) where
  keys _ known := known
  rows id _ after stored := by
    rcases find_redriveSelected selected now outbox id with same | ⟨row, _, found, _, reset⟩
    · exact ⟨after, same.symm.trans stored, rfl⟩
    · rw [reset, Option.some_inj] at stored
      exact ⟨row, found, stored ▸ rfl⟩

theorem OutboxRedriveOptions.Governs.keepsAnnounced {options : OutboxRedriveOptions}
    {outbox next : OutboxCollection Instance Payload} {phase : OutboxRedrivePhase}
    (governs : options.Governs outbox phase) (keeps : KeepsAnnounced outbox next) :
    options.Governs next phase := by
  cases governs with
  | updating confirmed distinct bounded known mayReset =>
    refine .updating confirmed distinct bounded (fun id member => keeps.keys id (known id member))
      fun id member after stored => ?_
    obtain ⟨before, found, same⟩ := keeps.rows id (known id member) after stored
    exact (mayReset id member before found).announced same
  | settled preview bounded => exact .settled preview bounded

/-- A call that is settled by its query has modified nothing. -/
theorem redriveQuery_settled {input : RedriveFailedOutboxInput}
    {outbox : OutboxCollection Instance Payload}
    {result : Except SelectionError RedriveFailedOutboxResult}
    (settled : redriveQuery input outbox = .settled result) :
    (OutboxRedrivePhase.settled result).modifiedCount = 0 := by
  unfold redriveQuery at settled
  split at settled
  · obtain rfl := RedriveQuery.settled.inj settled
    rfl
  · dsimp only at settled
    split at settled
    · obtain rfl := RedriveQuery.settled.inj settled
      rfl
    · cases settled

/-- A command governs its call from the query on. -/
theorem OutboxRedriveOptions.Sound.governs {options : OutboxRedriveOptions}
    (sound : options.Sound) {now : Int} {input : RedriveFailedOutboxInput}
    (given : options.input now = .ok input) (outbox : OutboxCollection Instance Payload) :
    options.Governs outbox ((redriveQuery input outbox).phase input) := by
  cases query : redriveQuery input outbox with
  | settled result =>
    have nothing := redriveQuery_settled query
    refine .settled (fun _ => nothing) fun limit _ => ?_
    rw [nothing]
    exact Nat.zero_le limit
  | selected events =>
    obtain ⟨confirmed, _, chosen, selection, rfl⟩ := redriveQuery_selected query
    have isDryRun : options.isDryRun = false := by
      rw [← confirmed, (input_eq_ok given).2]
    have stored : ∀ id ∈ chosen.map Prod.fst, ∃ row, outbox.find id = some row ∧
        Selects input id row := by
      intro id member
      obtain ⟨document, isChosen, rfl⟩ := List.mem_map.mp member
      exact ⟨document.2, selection.matched document isChosen⟩
    rw [RedriveQuery.phase, selectedIds_summary]
    refine .updating isDryRun selection.distinct (fun limit limited => ?_) (fun id member => ?_)
      fun id member row found => ?_
    · rw [Nat.zero_add, List.length_map]
      exact selection.bounded limit (sound.rowLimit given limited)
    · obtain ⟨row, found, _⟩ := stored id member
      exact Collection.mem_keys_of_find found
    · obtain ⟨chosenRow, isFound, selects⟩ := stored id member
      rw [isFound, Option.some_inj] at found
      exact sound.mayReset given confirmed (found ▸ selects)

/-- An update modifies no more rows than it takes off those left. -/
theorem modifiedBy_add_length_le {rows remaining : List ObjectId}
    (among : ∀ id ∈ rows, id ∈ remaining) (outbox : OutboxCollection Instance Payload) :
    modifiedBy rows outbox + (remaining.filter fun id => decide (id ∉ rows)).length ≤
      remaining.length := by
  have taken : modifiedBy rows outbox ≤ (remaining.filter fun id => decide (id ∈ rows)).length := by
    refine ((outbox.nodup_select _).subperm fun id member => ?_).length_le
    obtain ⟨row, _, accepted⟩ := Collection.mem_select.mp member
    rw [Bool.and_eq_true, decide_eq_true_eq] at accepted
    exact List.mem_filter.mpr ⟨among id accepted.1, decide_eq_true accepted.1⟩
  have both : remaining.length = (remaining.filter fun id => decide (id ∈ rows)).length +
      (remaining.filter fun id => !decide (id ∈ rows)).length :=
    List.length_eq_length_filter_add _
  simp only [decide_not]
  omega

section Steps

variable [DecidableEq Instance] {number : JsString → NumberValue}
  {config : PublisherConfig}

/-- An `_id` is not inserted a second time, so a row that is there was there before. -/
theorem keepsAnnounced_perform {action : OutboxAction Instance Payload}
    {outbox next : OutboxCollection Instance Payload}
    (performed : perform config action outbox = some next) : KeepsAnnounced outbox next where
  keys id known := by
    rw [keys_perform performed]
    exact List.mem_append_left _ known
  rows id known after stored := by
    have step := perform_row performed id
    rw [stored] at step
    cases found : outbox.find id with
    | none =>
      have distinct := next.distinct
      rw [keys_perform performed] at distinct
      exact absurd (step.inserted found) (List.disjoint_of_nodup_append distinct known)
    | some before =>
      rw [found] at step
      exact ⟨before, rfl, step.announced⟩

end Steps

/-! ### Every run -/

section Runs

variable [DecidableEq Run] [DecidableEq Instance] {number : JsString → NumberValue}
  {config : PublisherConfig} {state next : OutboxCommandState Run Instance Payload}

/-- What a step of a command or of another writer does to the outbox and the calls. -/
inductive OutboxCommandTransition (number : JsString → NumberValue) (config : PublisherConfig)
    (state : OutboxCommandState Run Instance Payload) :
    OutboxCommandLabel Run Instance Payload → OutboxCommandState Run Instance Payload → Prop
  | refused (run flags now) : OutboxCommandTransition number config state (.invoke run flags now)
      state
  | called {run flags now options input} (sound : options.Sound)
      (given : options.input now = .ok input) (new : state.redrive.runs run = none) :
      OutboxCommandTransition number config state (.invoke run flags now)
        { redrive :=
            { outbox := state.redrive.outbox
              runs := Function.update state.redrive.runs run
                (some ((redriveQuery input state.redrive.outbox).phase input)) }
          options := Function.update state.options run (some options) }
  | updated {run input events remaining modified rows}
      (updating : state.redrive.runs run = some (.updating input events remaining modified))
      (among : ∀ id ∈ rows, id ∈ remaining) :
      OutboxCommandTransition number config state (.update run rows)
        { state with
          redrive :=
            { outbox := redriveSelected rows input.now state.redrive.outbox
              runs := Function.update state.redrive.runs run (some (.updating input events
                (remaining.filter fun id => decide (id ∉ rows))
                (modified + modifiedBy rows state.redrive.outbox))) } }
  | finished {run input events modified}
      (updating : state.redrive.runs run = some (.updating input events [] modified)) :
      OutboxCommandTransition number config state (.finish run)
        { state with
          redrive :=
            { outbox := state.redrive.outbox
              runs := Function.update state.redrive.runs run (some (.settled (.ok
                { events, matchedCount := events.length, modifiedCount := modified }))) } }
  | other {action outbox} (performed : perform config action state.redrive.outbox = some outbox) :
      OutboxCommandTransition number config state (.other action)
        { state with redrive := { outbox, runs := state.redrive.runs } }

theorem outboxCommandStep_transition {label : OutboxCommandLabel Run Instance Payload}
    (moved : outboxCommandStep number config state label = some next) :
    OutboxCommandTransition number config state label next := by
  cases label with
  | invoke run flags now =>
    simp only [outboxCommandStep] at moved
    split at moved
    · exact Option.some.inj moved ▸ .refused run flags now
    · rename_i options read
      split at moved
      · exact Option.some.inj moved ▸ .refused run flags now
      · rename_i input given
        simp only [outboxRedriveStep] at moved
        split at moved
        · rename_i new
          rw [← Option.some.inj moved]
          exact .called (.readAll read) given new
        · cases moved
  | update run rows =>
    obtain ⟨redrive, stepped, rfl⟩ := Option.map_eq_some_iff.mp moved
    cases outboxRedriveStep_eq_some stepped with
    | updated _ _ _ _ _ _ updating among => exact .updated updating among
  | finish run =>
    obtain ⟨redrive, stepped, rfl⟩ := Option.map_eq_some_iff.mp moved
    simp only [outboxRedriveStep] at stepped
    split at stepped
    · rename_i updating
      rw [← Option.some.inj stepped]
      exact .finished updating
    · cases stepped
  | other action =>
    obtain ⟨redrive, stepped, rfl⟩ := Option.map_eq_some_iff.mp moved
    cases outboxRedriveStep_eq_some stepped with
    | other _ outbox performed => exact .other performed

/-- Every call is governed by the options of its command. -/
def Governed (state : OutboxCommandState Run Instance Payload) : Prop :=
  ∀ run phase, state.redrive.runs run = some phase →
    ∃ options, state.options run = some options ∧ options.Governs state.redrive.outbox phase

omit [DecidableEq Instance] in
/-- One call moves, and what its command says of it still holds. -/
theorem Governed.update {outbox : OutboxCollection Instance Payload} (governed : Governed state)
    (keeps : KeepsAnnounced state.redrive.outbox outbox) {run : Run} {phase : OutboxRedrivePhase}
    {options : OutboxRedriveOptions} (given : state.options run = some options)
    (governs : options.Governs outbox phase) :
    Governed { state with
      redrive := { outbox, runs := Function.update state.redrive.runs run (some phase) } } := by
  intro other found stored
  have stored : Function.update state.redrive.runs run (some phase) other = some found := stored
  by_cases same : other = run
  · rw [same, Function.update_self, Option.some_inj] at stored
    exact ⟨options, same ▸ given, stored ▸ governs⟩
  · rw [Function.update_of_ne same] at stored
    obtain ⟨others, isOther, governsOther⟩ := governed other found stored
    exact ⟨others, isOther, governsOther.keepsAnnounced keeps⟩

theorem outboxCommandStep_governed {label : OutboxCommandLabel Run Instance Payload}
    (governed : Governed state) (moved : outboxCommandStep number config state label = some next) :
    Governed next := by
  have unchanged : KeepsAnnounced state.redrive.outbox state.redrive.outbox :=
    ⟨fun _ known => known, fun _ _ after stored => ⟨after, stored, rfl⟩⟩
  cases outboxCommandStep_transition moved with
  | refused => exact governed
  | @called run _ _ options input sound given new =>
    intro other found stored
    have stored : Function.update state.redrive.runs run
      (some ((redriveQuery input state.redrive.outbox).phase input)) other = some found := stored
    by_cases same : other = run
    · rw [same, Function.update_self, Option.some_inj] at stored
      refine ⟨options, ?_, stored ▸ sound.governs given state.redrive.outbox⟩
      rw [same]
      exact Function.update_self run (some options) state.options
    · rw [Function.update_of_ne same] at stored
      obtain ⟨others, isOther, governsOther⟩ := governed other found stored
      exact ⟨others, (Function.update_of_ne same _ _).trans isOther, governsOther⟩
  | @updated run input events remaining modified rows updating among =>
    obtain ⟨options, given, governs⟩ := governed run _ updating
    have keeps := keepsAnnounced_redriveSelected rows input.now state.redrive.outbox
    refine governed.update keeps given ?_
    cases governs.keepsAnnounced keeps with
    | updating confirmed distinct bounded known mayReset =>
      refine .updating confirmed (distinct.filter _) (fun limit limited => ?_)
        (fun id member => known id (List.mem_of_mem_filter member))
        fun id member => mayReset id (List.mem_of_mem_filter member)
      have fewer := modifiedBy_add_length_le among state.redrive.outbox
      have most := bounded limit limited
      omega
  | @finished run input events modified updating =>
    obtain ⟨options, given, governs⟩ := governed run _ updating
    refine governed.update unchanged given ?_
    cases governs with
    | updating confirmed distinct bounded known mayReset =>
      refine .settled (fun preview => ?_) fun limit limited => ?_
      · exact absurd (confirmed.symm.trans preview) Bool.false_ne_true
      · exact bounded limit limited
  | @other action outbox performed =>
    intro run phase stored
    obtain ⟨options, given, governs⟩ := governed run phase stored
    exact ⟨options, given, governs.keepsAnnounced (keepsAnnounced_perform performed)⟩

/-! ### What an operator may rely on -/

/-- A preview modifies nothing, a limit bounds what a command modifies, and the row that a step of
a command changes had failed and is one that its options let it reset. -/
structure CommandsBounded (number : JsString → NumberValue) (config : PublisherConfig)
    (state : OutboxCommandState Run Instance Payload) : Prop where
  preview : ∀ run phase options, state.redrive.runs run = some phase →
    state.options run = some options → options.isDryRun = true → phase.modifiedCount = 0
  limit : ∀ run phase options limit, state.redrive.runs run = some phase →
    state.options run = some options → options.limit = some limit → phase.modifiedCount ≤ limit
  reset : ∀ run label next id, outboxCommandStep number config state label = some next →
    label.run? = some run →
      next.redrive.outbox.find id = state.redrive.outbox.find id ∨
        ∃ options row now, state.options run = some options ∧ options.MayReset id row ∧
          state.redrive.outbox.find id = some row ∧ row.status = .failed ∧
          next.redrive.outbox.find id = some (freshRow now row)

theorem Governed.bounded (governed : Governed state) : CommandsBounded number config state where
  preview run phase options stored given dry := by
    obtain ⟨_, isGiven, governs⟩ := governed run phase stored
    obtain rfl := Option.some.inj (given.symm.trans isGiven)
    cases governs with
    | updating confirmed => exact absurd (confirmed.symm.trans dry) Bool.false_ne_true
    | settled preview bounded => exact preview dry
  limit run phase options limit stored given limited := by
    obtain ⟨_, isGiven, governs⟩ := governed run phase stored
    obtain rfl := Option.some.inj (given.symm.trans isGiven)
    cases governs with
    | updating confirmed distinct bounded =>
      exact le_trans (Nat.le_add_right _ _) (bounded limit limited)
    | settled preview bounded => exact bounded limit limited
  reset run label next id moved caller := by
    cases outboxCommandStep_transition moved with
    | refused => exact Or.inl rfl
    | called => exact Or.inl rfl
    | @updated actor input events remaining modified rows updating among =>
      obtain rfl := Option.some.inj caller
      obtain ⟨options, given, governs⟩ := governed actor _ updating
      refine (find_redriveSelected rows input.now state.redrive.outbox id).imp_right ?_
      rintro ⟨row, member, stored, failed, after⟩
      cases governs with
      | updating confirmed distinct bounded known mayReset =>
        exact ⟨options, row, input.now, given, mayReset id (among id member) row stored, stored,
          failed, after⟩
    | finished => exact Or.inl rfl
    | other => exact absurd caller (Option.some_ne_none run).symm

/-- Whatever is on the command lines, in every state of every run of any number of commands among
publishers and other writers. -/
theorem outbox_redrive_commands_bounded {start : OutboxCollection Instance Payload}
    {labels : List (OutboxCommandLabel Run Instance Payload)}
    (reached : Transition.run (outboxCommandStep number config) (.start start) labels =
      some state) : CommandsBounded number config state :=
  (Transition.run_invariant (fun _ _ _ governed moved => outboxCommandStep_governed governed moved)
    (fun _ _ stored => absurd stored (Option.some_ne_none _).symm) reached).bounded

end Runs

/-- Two confirmed commands on two failed rows, each with a limit of one. -/
def commandsWithLimit : List (OutboxCommandLabel Bool Bool Unit) :=
  [.invoke true [.confirm, .limit (jsString "1")] 9, .invoke false [.confirm] 9,
    .update true [1], .finish true, .invoke false [.limit (jsString "1"), .confirm] 9,
    .update false [2]]

theorem outbox_redrive_commands_bounded_limited :
    ∃ state, Transition.run (outboxCommandStep (fun _ => .finite 1) .default)
        (.start twoFailedRows) commandsWithLimit = some state ∧
      (∀ id ∈ [(1 : ObjectId), 2], (state.redrive.outbox.find id).any (fun row =>
        decide (row.status = .pending)) = true) ∧
      CommandsBounded (fun _ => .finite 1) .default state := by
  have runs : (Transition.run (outboxCommandStep (fun _ => .finite 1) .default)
      (.start twoFailedRows) commandsWithLimit).any (fun state =>
        [(1 : ObjectId), 2].all fun id => (state.redrive.outbox.find id).any fun row =>
          decide (row.status = .pending)) = true := by
    decide +kernel
  obtain ⟨state, reached, pending⟩ := (Option.any_eq_true _ _).mp runs
  exact ⟨state, reached, List.all_eq_true.mp pending, outbox_redrive_commands_bounded reached⟩

end MessageManagement
