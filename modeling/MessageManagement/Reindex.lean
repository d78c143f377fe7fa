/-
This file models `EsReindexService.reindex` against search indexers that keep
indexing messages: every request of either is a step, in any order.

The service compares two counts taken at different times, which says little about
what was indexed between them. The swap keeps every document indexed before it
if and only if `_reindex` saw them all when it started; a document indexed, or
only refreshed, later than that is not readable after the swap.
-/

import MessageManagement.Library.Numbers
import MessageManagement.Library.SearchCluster
import MessageManagement.Library.Transition
import MessageManagement.SearchIndexer

namespace MessageManagement

open SearchCluster

variable {Number : Type}

/-! ### The target index -/

def MESSAGES_READ_ALIAS : JsString := jsString "messages-read"

def MESSAGES_WRITE_ALIAS : JsString := jsString "messages-write"

structure EsReindexInput where
  dryRun : Bool
  targetIndex : Option JsString

structure EsReindexResult where
  aliasesSwapped : Bool
  previousWriteIndices : List JsString
  sourceCount : Nat
  sourceIndices : List JsString
  targetCount : Option Nat
  targetIndex : JsString

/-- `/^[1-9]\d*$/`. -/
def isVersion : JsString → Bool
  | [] => false
  | first :: rest => isDigit first && first != 0x30 && rest.all isDigit

/-- What follows a literal at the start of a text. -/
def afterLiteral (literal : String) (text : JsString) : Option JsString :=
  if (jsString literal).isPrefixOf text then some (text.drop (jsString literal).length) else none

/-- The version after the greatest one, as text. A version is a `number`, so beyond 2^53 it is
rounded when it is read, and again when it is added to. -/
def nextIndexVersion (indices : List JsString) : JsString :=
  let versions := indices.filterMap fun index =>
    ((afterLiteral "messages-v" index).filter isVersion).map fun version =>
      Binary64.rounded (digitsValue version)
  jsString (Binary64.toText (Binary64.rounded (versions.foldl max 1 + 1)))

-- The version that follows may be one that is there; `reindex` then finds that its target exists.
example : nextIndexVersion [jsString "messages-v9007199254740992"] =
    jsString "9007199254740992" := by
  decide +kernel

def normalizeTargetIndex (targetIndex : Option JsString) (sourceIndices : List JsString) :
    Except JsString JsString :=
  match targetIndex with
  | none => .ok (jsString "messages-v" ++ nextIndexVersion sourceIndices)
  | some [] => .ok (jsString "messages-v" ++ nextIndexVersion sourceIndices)
  | some name =>
    if (afterLiteral "messages-v" name).any isVersion then .ok name
    else if (afterLiteral "v" name).any isVersion then .ok (jsString "messages-" ++ name)
    else if isVersion name then .ok (jsString "messages-v" ++ name)
    else .error (jsString "Target index must look like v2, 2, or messages-v2.")

def buildAliasSwapActions (previousReadIndices previousWriteIndices : List JsString)
    (targetIndex : JsString) : List (AliasAction JsString) :=
  previousReadIndices.map (.remove MESSAGES_READ_ALIAS) ++
    previousWriteIndices.map (.remove MESSAGES_WRITE_ALIAS) ++
      [.add MESSAGES_READ_ALIAS targetIndex none,
        .add MESSAGES_WRITE_ALIAS targetIndex (some true)]

/-! ### Requests -/

abbrev Elasticsearch (Number : Type) := Cluster JsString JsString (EsMessageDocument Number)

/-- `getAliasIndices`. -/
def getAliasIndices (elasticsearch : Elasticsearch Number) (name : JsString) : List JsString :=
  (elasticsearch.aliasIndices name).insertionSort fun first second => first ≤ second

/-- What `reindex` knows after its alias lookups. -/
structure ReindexPlan where
  sourceIndices : List JsString
  previousWriteIndices : List JsString
  targetIndex : JsString

/-- Where `reindex` is: each phase but the last two awaits the request it is named after. The two
alias lookups are awaited together. -/
inductive ReindexPhase (Number : Type)
  | getAliases (sourceIndices previousWriteIndices : Option (List JsString))
  | countSource (plan : ReindexPlan)
  | targetExists (plan : ReindexPlan) (sourceCount : Nat)
  | create (plan : ReindexPlan) (sourceCount : Nat)
  | reindex (plan : ReindexPlan) (sourceCount : Nat)
  | copying (plan : ReindexPlan) (sourceCount : Nat)
      (found : Collection JsString (EsMessageDocument Number))
  | countTarget (plan : ReindexPlan) (sourceCount : Nat)
  | updateAliases (plan : ReindexPlan) (sourceCount targetCount : Nat)
  | returned (result : EsReindexResult)
  | failed (message : JsString)

/-- The service goes on once both lookups are answered. -/
def afterGetAliases (input : EsReindexInput) :
    Option (List JsString) → Option (List JsString) → ReindexPhase Number
  | some sourceIndices, some previousWriteIndices =>
    if sourceIndices.isEmpty then
      .failed (jsString "Alias messages-read does not point at any index.")
    else
      match normalizeTargetIndex input.targetIndex sourceIndices with
      | .error message => .failed message
      | .ok targetIndex => .countSource { sourceIndices, previousWriteIndices, targetIndex }
  | sourceIndices, previousWriteIndices => .getAliases sourceIndices previousWriteIndices

def afterTargetExists (input : EsReindexInput) (plan : ReindexPlan) (sourceCount : Nat)
    (targetExists : Bool) : ReindexPhase Number :=
  if input.dryRun then
    .returned
      { aliasesSwapped := false
        previousWriteIndices := plan.previousWriteIndices
        sourceCount
        sourceIndices := plan.sourceIndices
        targetCount := none
        targetIndex := plan.targetIndex }
  else if targetExists then
    .failed (jsString "Target index already exists: " ++ plan.targetIndex)
  else .create plan sourceCount

def afterCountTarget (plan : ReindexPlan) (sourceCount targetCount : Nat) : ReindexPhase Number :=
  if targetCount ≠ sourceCount then
    .failed (jsString
      s!"Reindex count verification failed: source={sourceCount}, target={targetCount}.")
  else .updateAliases plan sourceCount targetCount

def ReindexPlan.swapped (plan : ReindexPlan) (sourceCount targetCount : Nat) : EsReindexResult where
  aliasesSwapped := true
  previousWriteIndices := plan.previousWriteIndices
  sourceCount
  sourceIndices := plan.sourceIndices
  targetCount := some targetCount
  targetIndex := plan.targetIndex

/-- `seen` is what `_reindex` found when it started, `acknowledged` the last document of each
`_id` that was indexed with success before the swap, and `since` what was indexed after it. No
step reads the three. -/
structure ReindexState (Number : Type) where
  elasticsearch : Elasticsearch Number
  phase : ReindexPhase Number
  seen : JsString → Option (EsMessageDocument Number)
  acknowledged : JsString → Option (EsMessageDocument Number)
  since : List (JsString × EsMessageDocument Number)

def ReindexState.start (elasticsearch : Elasticsearch Number) : ReindexState Number where
  elasticsearch
  phase := .getAliases none none
  seen _ := none
  acknowledged _ := none
  since := []

/-- `indexMessage` is a call of a search indexer, `refresh` makes the documents of an index
visible, and `fail` fails the request that is awaited. The others answer it: `startReindex` is the
moment `_reindex` starts, and names the index it prefers for an `_id` that several have. -/
inductive ReindexAction (Number : Type)
  | getReadAlias
  | getWriteAlias
  | countSource
  | targetExists
  | create
  | startReindex (preferred : JsString → JsString)
  | finishReindex (failures : Nat)
  | countTarget
  | updateAliases
  | fail (message : JsString)
  | indexMessage (document : SearchMessageDocument Number) (result : IndexResult)
  | refresh (index : JsString)

def ReindexPhase.isReturned : ReindexPhase Number → Bool
  | .returned _ => true
  | _ => false

/-- An `index` request of a search indexer that is applied. -/
def ReindexState.indexed (id : JsString) (body : EsMessageDocument Number) (acknowledged : Bool)
    (state : ReindexState Number) : Option (ReindexState Number) :=
  (state.elasticsearch.index MESSAGES_WRITE_ALIAS id body).map fun elasticsearch =>
    if state.phase.isReturned then
      { state with elasticsearch, since := state.since ++ [(id, body)] }
    else
      { state with
        elasticsearch
        acknowledged :=
          if acknowledged then Overwrite.write (id, body) state.acknowledged
          else state.acknowledged }

/-- A call of `indexMessage`, through the write alias. -/
def indexThroughAlias (document : SearchMessageDocument Number) (result : IndexResult)
    (state : ReindexState Number) : Option (ReindexState Number) :=
  match projectMessageDocument document with
  | none => some state
  | some body =>
    match result with
    | .succeeded => state.indexed document.id body true
    | .failed true _ => state.indexed document.id body false
    | .failed false _ => some state

def reindexStep (input : EsReindexInput) (state : ReindexState Number) :
    ReindexAction Number → Option (ReindexState Number)
  | .getReadAlias =>
    match state.phase with
    | .getAliases none previousWriteIndices =>
      some { state with
        phase := afterGetAliases input
          (some (getAliasIndices state.elasticsearch MESSAGES_READ_ALIAS)) previousWriteIndices }
    | _ => none
  | .getWriteAlias =>
    match state.phase with
    | .getAliases sourceIndices none =>
      some { state with
        phase := afterGetAliases input sourceIndices
          (some (getAliasIndices state.elasticsearch MESSAGES_WRITE_ALIAS)) }
    | _ => none
  | .countSource =>
    match state.phase with
    | .countSource plan =>
      (state.elasticsearch.count MESSAGES_READ_ALIAS).map fun sourceCount =>
        { state with phase := .targetExists plan sourceCount }
    | _ => none
  | .targetExists =>
    match state.phase with
    | .targetExists plan sourceCount =>
      some { state with
        phase := afterTargetExists input plan sourceCount
          (!(state.elasticsearch.resolve plan.targetIndex).isEmpty) }
    | _ => none
  | .create =>
    match state.phase with
    | .create plan sourceCount =>
      (state.elasticsearch.create plan.targetIndex).map fun elasticsearch =>
        { state with elasticsearch, phase := .reindex plan sourceCount }
    | _ => none
  | .startReindex preferred =>
    match state.phase with
    | .reindex plan sourceCount =>
      let found := Cluster.searched preferred (state.elasticsearch.resolve MESSAGES_READ_ALIAS)
      some { state with phase := .copying plan sourceCount found, seen := found.find }
    | _ => none
  | .finishReindex failures =>
    match state.phase with
    | .copying plan sourceCount found =>
      if 0 < failures then
        some { state with
          phase := .failed (jsString s!"Elasticsearch reindex reported {failures} failures.") }
      else
        some { state with
          elasticsearch := state.elasticsearch.modify plan.targetIndex (·.load found)
          phase := .countTarget plan sourceCount }
    | _ => none
  | .countTarget =>
    match state.phase with
    | .countTarget plan sourceCount =>
      (state.elasticsearch.count plan.targetIndex).map fun targetCount =>
        { state with phase := afterCountTarget plan sourceCount targetCount }
    | _ => none
  | .updateAliases =>
    match state.phase with
    | .updateAliases plan sourceCount targetCount =>
      (state.elasticsearch.updateAliases (buildAliasSwapActions plan.sourceIndices
        plan.previousWriteIndices plan.targetIndex)).map fun elasticsearch =>
          { state with elasticsearch, phase := .returned (plan.swapped sourceCount targetCount) }
    | _ => none
  | .fail message =>
    match state.phase with
    | .returned _ => none
    | .failed _ => none
    | _ => some { state with phase := .failed message }
  | .indexMessage document result => indexThroughAlias document result state
  | .refresh index => some { state with elasticsearch := state.elasticsearch.refresh index }

/-- What a step does, by its action: the phase that it needs and the state that it leaves. -/
inductive ReindexTransition (input : EsReindexInput) (state : ReindexState Number) :
    ReindexAction Number → ReindexState Number → Prop
  | getReadAlias {previousWriteIndices}
      (was : state.phase = .getAliases none previousWriteIndices) :
      ReindexTransition input state .getReadAlias
        { state with
          phase := afterGetAliases input
            (some (getAliasIndices state.elasticsearch MESSAGES_READ_ALIAS)) previousWriteIndices }
  | getWriteAlias {sourceIndices} (was : state.phase = .getAliases sourceIndices none) :
      ReindexTransition input state .getWriteAlias
        { state with
          phase := afterGetAliases input sourceIndices
            (some (getAliasIndices state.elasticsearch MESSAGES_WRITE_ALIAS)) }
  | countSource {plan sourceCount} (was : state.phase = .countSource plan)
      (counted : state.elasticsearch.count MESSAGES_READ_ALIAS = some sourceCount) :
      ReindexTransition input state .countSource
        { state with phase := .targetExists plan sourceCount }
  | targetExists {plan sourceCount} (was : state.phase = .targetExists plan sourceCount) :
      ReindexTransition input state .targetExists
        { state with
          phase := afterTargetExists input plan sourceCount
            (!(state.elasticsearch.resolve plan.targetIndex).isEmpty) }
  | create {plan sourceCount elasticsearch} (was : state.phase = .create plan sourceCount)
      (created : state.elasticsearch.create plan.targetIndex = some elasticsearch) :
      ReindexTransition input state .create
        { state with elasticsearch, phase := .reindex plan sourceCount }
  | startReindex preferred {plan sourceCount} (was : state.phase = .reindex plan sourceCount) :
      ReindexTransition input state (.startReindex preferred)
        { state with
          phase := .copying plan sourceCount
            (Cluster.searched preferred (state.elasticsearch.resolve MESSAGES_READ_ALIAS))
          seen := (Cluster.searched preferred
            (state.elasticsearch.resolve MESSAGES_READ_ALIAS)).find }
  | reindexFailed {failures plan sourceCount found message}
      (was : state.phase = .copying plan sourceCount found) (failed : 0 < failures) :
      ReindexTransition input state (.finishReindex failures)
        { state with phase := .failed message }
  | finishReindex {plan sourceCount found}
      (was : state.phase = .copying plan sourceCount found) :
      ReindexTransition input state (.finishReindex 0)
        { state with
          elasticsearch := state.elasticsearch.modify plan.targetIndex (·.load found)
          phase := .countTarget plan sourceCount }
  | countTarget {plan sourceCount targetCount} (was : state.phase = .countTarget plan sourceCount)
      (counted : state.elasticsearch.count plan.targetIndex = some targetCount) :
      ReindexTransition input state .countTarget
        { state with phase := afterCountTarget plan sourceCount targetCount }
  | updateAliases {plan sourceCount targetCount elasticsearch}
      (was : state.phase = .updateAliases plan sourceCount targetCount)
      (applied : state.elasticsearch.updateAliases (buildAliasSwapActions plan.sourceIndices
        plan.previousWriteIndices plan.targetIndex) = some elasticsearch) :
      ReindexTransition input state .updateAliases
        { state with elasticsearch, phase := .returned (plan.swapped sourceCount targetCount) }
  | fail message (running : state.phase.isReturned = false) :
      ReindexTransition input state (.fail message) { state with phase := .failed message }
  | indexMessage document result {body acknowledged next}
      (projected : projectMessageDocument document = some body)
      (indexed : state.indexed document.id body acknowledged = some next) :
      ReindexTransition input state (.indexMessage document result) next
  | notIndexed document result :
      ReindexTransition input state (.indexMessage document result) state
  | refresh index :
      ReindexTransition input state (.refresh index)
        { state with elasticsearch := state.elasticsearch.refresh index }

theorem reindexStep_transition {input : EsReindexInput} {state next : ReindexState Number}
    {action : ReindexAction Number} (moved : reindexStep input state action = some next) :
    ReindexTransition input state action next := by
  cases action with
  | getReadAlias =>
    simp only [reindexStep] at moved
    split at moved
    · rename_i was
      exact Option.some.inj moved ▸ .getReadAlias was
    · cases moved
  | getWriteAlias =>
    simp only [reindexStep] at moved
    split at moved
    · rename_i was
      exact Option.some.inj moved ▸ .getWriteAlias was
    · cases moved
  | countSource =>
    simp only [reindexStep] at moved
    split at moved
    · rename_i was
      obtain ⟨_, counted, rfl⟩ := Option.map_eq_some_iff.mp moved
      exact .countSource was counted
    · cases moved
  | targetExists =>
    simp only [reindexStep] at moved
    split at moved
    · rename_i was
      exact Option.some.inj moved ▸ .targetExists was
    · cases moved
  | create =>
    simp only [reindexStep] at moved
    split at moved
    · rename_i was
      obtain ⟨_, created, rfl⟩ := Option.map_eq_some_iff.mp moved
      exact .create was created
    · cases moved
  | startReindex preferred =>
    simp only [reindexStep] at moved
    split at moved
    · rename_i was
      exact Option.some.inj moved ▸ .startReindex preferred was
    · cases moved
  | finishReindex failures =>
    simp only [reindexStep] at moved
    split at moved
    · rename_i was
      split at moved
      · rename_i failed
        exact Option.some.inj moved ▸ .reindexFailed was failed
      · rename_i succeeded
        obtain rfl := Nat.eq_zero_of_not_pos succeeded
        exact Option.some.inj moved ▸ .finishReindex was
    · cases moved
  | countTarget =>
    simp only [reindexStep] at moved
    split at moved
    · rename_i was
      obtain ⟨_, counted, rfl⟩ := Option.map_eq_some_iff.mp moved
      exact .countTarget was counted
    · cases moved
  | updateAliases =>
    simp only [reindexStep] at moved
    split at moved
    · rename_i was
      obtain ⟨_, applied, rfl⟩ := Option.map_eq_some_iff.mp moved
      exact .updateAliases was applied
    · cases moved
  | fail message =>
    simp only [reindexStep] at moved
    split at moved
    · cases moved
    · cases moved
    · rename_i notReturned _
      refine Option.some.inj moved ▸ .fail message ?_
      cases phase : state.phase with
      | returned result => exact absurd phase (notReturned result)
      | _ => rfl
  | indexMessage document result =>
    have moved : indexThroughAlias document result state = some next := moved
    unfold indexThroughAlias at moved
    split at moved
    · exact Option.some.inj moved ▸ .notIndexed document result
    · rename_i projected
      split at moved
      · exact .indexMessage document _ projected moved
      · exact .indexMessage document _ projected moved
      · exact Option.some.inj moved ▸ .notIndexed document _
  | refresh name =>
    have moved : some _ = some next := moved
    exact Option.some.inj moved ▸ .refresh name

/-! ### The phases of a run -/

/-- The plan names the indices of both aliases, and a target that is called like an index. -/
structure ReindexPlan.IsCurrent (elasticsearch : Elasticsearch Number) (plan : ReindexPlan) :
    Prop where
  source : plan.sourceIndices = getAliasIndices elasticsearch MESSAGES_READ_ALIAS
  previousWrite : plan.previousWriteIndices = getAliasIndices elasticsearch MESSAGES_WRITE_ALIAS
  named : (jsString "messages-v").isPrefixOf plan.targetIndex = true

/-- The target exists, no alias is attached to it, and its content is this. -/
structure ReindexPlan.HasTarget (elasticsearch : Elasticsearch Number) (plan : ReindexPlan)
    (content : JsString → Option (EsMessageDocument Number)) : Prop where
  detached : ∀ entry ∈ elasticsearch.aliases, entry.index ≠ plan.targetIndex
  present : ∃ index, elasticsearch.indices plan.targetIndex = some index ∧
    index.stored.find = content ∧ index.visible.find = content

/-- Every document that `_reindex` saw is in a collection, or one indexed since in its place. -/
def KeepsSeen (state : ReindexState Number)
    (documents : Collection JsString (EsMessageDocument Number)) : Prop :=
  ∀ id document, state.seen id = some document →
    ∃ kept, documents.find id = some kept ∧ (kept = document ∨ (id, kept) ∈ state.since)

/-- After the swap both aliases have the target only, which keeps what `_reindex` saw. -/
structure Swapped (state : ReindexState Number) (targetIndex : JsString) : Prop where
  read : state.elasticsearch.aliasEntries MESSAGES_READ_ALIAS =
    [⟨MESSAGES_READ_ALIAS, targetIndex, none⟩]
  write : state.elasticsearch.aliasEntries MESSAGES_WRITE_ALIAS =
    [⟨MESSAGES_WRITE_ALIAS, targetIndex, some true⟩]
  present : ∃ index, state.elasticsearch.indices targetIndex = some index ∧
    KeepsSeen state index.stored ∧ KeepsSeen state index.visible

/-- What holds in each phase. -/
def ReindexState.Invariant (state : ReindexState Number) : Prop :=
  match state.phase with
  | .getAliases sourceIndices previousWriteIndices =>
    (∀ indices, sourceIndices = some indices →
      indices = getAliasIndices state.elasticsearch MESSAGES_READ_ALIAS) ∧
    ∀ indices, previousWriteIndices = some indices →
      indices = getAliasIndices state.elasticsearch MESSAGES_WRITE_ALIAS
  | .countSource plan => plan.IsCurrent state.elasticsearch
  | .targetExists plan _ => plan.IsCurrent state.elasticsearch
  | .create plan _ => plan.IsCurrent state.elasticsearch
  | .reindex plan _ =>
    plan.IsCurrent state.elasticsearch ∧ plan.HasTarget state.elasticsearch fun _ => none
  | .copying plan _ found =>
    plan.IsCurrent state.elasticsearch ∧ plan.HasTarget state.elasticsearch (fun _ => none) ∧
      found.find = state.seen
  | .countTarget plan _ =>
    plan.IsCurrent state.elasticsearch ∧ plan.HasTarget state.elasticsearch state.seen
  | .updateAliases plan _ _ =>
    plan.IsCurrent state.elasticsearch ∧ plan.HasTarget state.elasticsearch state.seen
  | .returned result => result.aliasesSwapped = true → Swapped state result.targetIndex
  | .failed _ => True

section Phases

theorem jsString_append (first second : String) :
    jsString (first ++ second) = jsString first ++ jsString second := by
  rw [jsString, String.toList_append, List.flatMap_append]
  rfl

theorem isPrefixOf_of_afterLiteral {literal : String} {text : JsString}
    {accepts : JsString → Bool} (follows : (afterLiteral literal text).any accepts = true) :
    (jsString literal).isPrefixOf text = true := by
  by_contra refused
  rw [afterLiteral, if_neg refused] at follows
  exact Bool.false_ne_true follows

theorem isPrefixOf_append (first second : JsString) :
    first.isPrefixOf (first ++ second) = true := by
  rw [List.isPrefixOf_iff_prefix]
  exact List.prefix_append first second

/-- Whatever target is asked for, it is called `messages-v…`. -/
theorem normalizeTargetIndex_named {targetIndex : Option JsString} {sourceIndices : List JsString}
    {name : JsString} (normalized : normalizeTargetIndex targetIndex sourceIndices = .ok name) :
    (jsString "messages-v").isPrefixOf name = true := by
  unfold normalizeTargetIndex at normalized
  split at normalized
  · rw [← Except.ok.inj normalized]
    exact isPrefixOf_append _ _
  · rw [← Except.ok.inj normalized]
    exact isPrefixOf_append _ _
  · rename_i asked _
    split at normalized
    · rename_i follows
      rw [← Except.ok.inj normalized]
      exact isPrefixOf_of_afterLiteral follows
    · split at normalized
      · rename_i follows
        rw [← Except.ok.inj normalized, show jsString "messages-v" =
          jsString "messages-" ++ jsString "v" from jsString_append "messages-" "v",
          List.isPrefixOf_iff_prefix, List.prefix_append_right_inj, ← List.isPrefixOf_iff_prefix]
        exact isPrefixOf_of_afterLiteral follows
      · split at normalized
        · rw [← Except.ok.inj normalized]
          exact isPrefixOf_append _ _
        · exact nomatch normalized

theorem ReindexPlan.IsCurrent.of_aliases {plan : ReindexPlan}
    {elasticsearch next : Elasticsearch Number} (current : plan.IsCurrent elasticsearch)
    (aliases : next.aliases = elasticsearch.aliases) : plan.IsCurrent next := by
  have same : ∀ name, getAliasIndices next name = getAliasIndices elasticsearch name := by
    intro name
    rw [getAliasIndices, getAliasIndices, Cluster.aliasIndices, Cluster.aliasIndices,
      Cluster.aliasEntries, Cluster.aliasEntries, aliases]
  refine ⟨?_, ?_, current.named⟩
  · rw [same, current.source]
  · rw [same, current.previousWrite]

/-- An index that is not the target may change. -/
theorem ReindexPlan.HasTarget.modify_other {plan : ReindexPlan}
    {elasticsearch : Elasticsearch Number} {content : JsString → Option (EsMessageDocument Number)}
    (target : plan.HasTarget elasticsearch content) {name : JsString}
    (other : name ≠ plan.targetIndex)
    (change : Index JsString (EsMessageDocument Number) →
      Index JsString (EsMessageDocument Number)) :
    plan.HasTarget (elasticsearch.modify name change) content := by
  refine ⟨target.detached, ?_⟩
  rw [Cluster.indices_modify, Function.update_of_ne other.symm]
  exact target.present

/-- The target may be refreshed like any index. -/
theorem ReindexPlan.HasTarget.refresh {plan : ReindexPlan} {elasticsearch : Elasticsearch Number}
    {content : JsString → Option (EsMessageDocument Number)}
    (target : plan.HasTarget elasticsearch content) (name : JsString) :
    plan.HasTarget (elasticsearch.refresh name) content := by
  by_cases same : name = plan.targetIndex
  · obtain ⟨index, present, stored, _⟩ := target.present
    refine ⟨target.detached, index.refresh, ?_, stored, stored⟩
    rw [Cluster.refresh, Cluster.indices_modify, same, Function.update_self, present,
      Option.map_some]
  · exact target.modify_other same _

/-- Before the swap no write goes to the target. -/
theorem ReindexPlan.HasTarget.writeTarget_ne {plan : ReindexPlan}
    {elasticsearch : Elasticsearch Number} {content : JsString → Option (EsMessageDocument Number)}
    (target : plan.HasTarget elasticsearch content) (current : plan.IsCurrent elasticsearch)
    {name : JsString} (takes : elasticsearch.writeTarget MESSAGES_WRITE_ALIAS = some name) :
    name ≠ plan.targetIndex := by
  rcases Cluster.writeTarget_mem takes with isAlias | ⟨entry, member, same⟩
  · rintro rfl
    have named := current.named
    rw [isAlias] at named
    exact absurd named (by decide)
  · rw [← same]
    exact target.detached entry member

/-- What is done in the background before the swap keeps the invariant. -/
theorem ReindexState.Invariant.background {state : ReindexState Number}
    (invariant : state.Invariant) (running : state.phase.isReturned = false)
    {elasticsearch : Elasticsearch Number}
    (aliases : elasticsearch.aliases = state.elasticsearch.aliases)
    (kept : ∀ (plan : ReindexPlan) content, plan.IsCurrent state.elasticsearch →
      plan.HasTarget state.elasticsearch content → plan.HasTarget elasticsearch content)
    (acknowledged : JsString → Option (EsMessageDocument Number)) :
    ({ state with elasticsearch, acknowledged } : ReindexState Number).Invariant := by
  have same : ∀ name, getAliasIndices elasticsearch name =
      getAliasIndices state.elasticsearch name := by
    intro name
    rw [getAliasIndices, getAliasIndices, Cluster.aliasIndices, Cluster.aliasIndices,
      Cluster.aliasEntries, Cluster.aliasEntries, aliases]
  unfold ReindexState.Invariant at invariant ⊢
  dsimp only
  cases phase : state.phase with
  | getAliases sourceIndices previousWriteIndices =>
    rw [phase] at invariant
    dsimp only at invariant ⊢
    rw [same, same]
    exact invariant
  | countSource plan =>
    rw [phase] at invariant
    exact invariant.of_aliases aliases
  | targetExists plan sourceCount =>
    rw [phase] at invariant
    exact invariant.of_aliases aliases
  | create plan sourceCount =>
    rw [phase] at invariant
    exact invariant.of_aliases aliases
  | reindex plan sourceCount =>
    rw [phase] at invariant
    exact ⟨invariant.1.of_aliases aliases, kept plan _ invariant.1 invariant.2⟩
  | copying plan sourceCount found =>
    rw [phase] at invariant
    obtain ⟨current, target, found⟩ := invariant
    exact ⟨current.of_aliases aliases, kept plan _ current target, found⟩
  | countTarget plan sourceCount =>
    rw [phase] at invariant
    exact ⟨invariant.1.of_aliases aliases, kept plan _ invariant.1 invariant.2⟩
  | updateAliases plan sourceCount targetCount =>
    rw [phase] at invariant
    exact ⟨invariant.1.of_aliases aliases, kept plan _ invariant.1 invariant.2⟩
  | returned result =>
    rw [phase] at running
    cases running
  | failed message => trivial

/-! ### After the swap -/

theorem KeepsSeen.put {state : ReindexState Number}
    {documents : Collection JsString (EsMessageDocument Number)} (keeps : KeepsSeen state documents)
    (next : ReindexState Number) (seen : next.seen = state.seen) (id : JsString)
    (body : EsMessageDocument Number) (since : next.since = state.since ++ [(id, body)]) :
    KeepsSeen next documents ∧ KeepsSeen next (documents.put id body) := by
  have earlier : KeepsSeen next documents := by
    intro other document found
    rw [seen] at found
    obtain ⟨kept, stored, same⟩ := keeps other document found
    refine ⟨kept, stored, same.imp (fun is => is) fun member => ?_⟩
    rw [since]
    exact List.mem_append_left _ member
  refine ⟨earlier, fun other document found => ?_⟩
  by_cases same : other = id
  · refine ⟨body, ?_, Or.inr ?_⟩
    · rw [Collection.find_put, same, Function.update_self]
    · rw [since, same]
      exact List.mem_append_right _ List.mem_cons_self
  · obtain ⟨kept, stored, isKept⟩ := earlier other document found
    refine ⟨kept, ?_, isKept⟩
    rw [Collection.find_put, Function.update_of_ne same]
    exact stored

theorem Swapped.indexed {state : ReindexState Number} {targetIndex : JsString}
    (swapped : Swapped state targetIndex) {id : JsString} {body : EsMessageDocument Number}
    {elasticsearch : Elasticsearch Number}
    (written : state.elasticsearch.index MESSAGES_WRITE_ALIAS id body = some elasticsearch) :
    Swapped { state with elasticsearch, since := state.since ++ [(id, body)] } targetIndex := by
  rw [Cluster.index, Cluster.writeTarget_single swapped.write rfl, Option.map_some,
    Option.some_inj] at written
  rw [← written]
  obtain ⟨index, present, stored, visible⟩ := swapped.present
  refine ⟨swapped.read, swapped.write, index.put id body, ?_, ?_, ?_⟩
  · rw [Cluster.indices_modify, Function.update_self, present, Option.map_some]
  · exact (stored.put { state with
      elasticsearch := state.elasticsearch.modify targetIndex (·.put id body)
      since := state.since ++ [(id, body)] } rfl id body rfl).2
  · exact (visible.put { state with
      elasticsearch := state.elasticsearch.modify targetIndex (·.put id body)
      since := state.since ++ [(id, body)] } rfl id body rfl).1

theorem Swapped.refresh {state : ReindexState Number} {targetIndex : JsString}
    (swapped : Swapped state targetIndex) (name : JsString) :
    Swapped { state with elasticsearch := state.elasticsearch.refresh name } targetIndex := by
  obtain ⟨index, present, stored, visible⟩ := swapped.present
  refine ⟨swapped.read, swapped.write, ?_⟩
  rw [Cluster.refresh, Cluster.indices_modify]
  by_cases same : targetIndex = name
  · refine ⟨index.refresh, ?_, stored, stored⟩
    rw [← same, Function.update_self, present, Option.map_some]
  · refine ⟨index, ?_, stored, visible⟩
    rw [Function.update_of_ne same]
    exact present

theorem mem_getAliasIndices {elasticsearch : Elasticsearch Number} {entry : AliasEntry JsString}
    (member : entry ∈ elasticsearch.aliases) :
    entry.index ∈ getAliasIndices elasticsearch entry.aliasName := by
  rw [getAliasIndices, List.mem_insertionSort, Cluster.aliasIndices, List.mem_map]
  exact ⟨entry, List.mem_filter.mpr ⟨member, decide_eq_true rfl⟩, rfl⟩

/-- What the alias actions of the service leave. -/
theorem swapped_updateAliases {plan : ReindexPlan} {elasticsearch next : Elasticsearch Number}
    (current : plan.IsCurrent elasticsearch)
    (applied : elasticsearch.updateAliases (buildAliasSwapActions plan.sourceIndices
      plan.previousWriteIndices plan.targetIndex) = some next) :
    next.indices = elasticsearch.indices ∧
      next.aliasEntries MESSAGES_READ_ALIAS = [⟨MESSAGES_READ_ALIAS, plan.targetIndex, none⟩] ∧
      next.aliasEntries MESSAGES_WRITE_ALIAS =
        [⟨MESSAGES_WRITE_ALIAS, plan.targetIndex, some true⟩] := by
  rw [buildAliasSwapActions, List.append_assoc, Cluster.updateAliases_append] at applied
  obtain ⟨first, removedRead, applied⟩ := Option.bind_eq_some_iff.mp applied
  rw [Cluster.updateAliases_append] at applied
  obtain ⟨second, removedWrite, applied⟩ := Option.bind_eq_some_iff.mp applied
  rw [← List.singleton_append, Cluster.updateAliases_append] at applied
  obtain ⟨third, addedRead, addedWrite⟩ := Option.bind_eq_some_iff.mp applied
  obtain ⟨firstIndices, firstAliases⟩ := Cluster.updateAliases_remove removedRead
  obtain ⟨secondIndices, secondAliases⟩ := Cluster.updateAliases_remove removedWrite
  obtain ⟨thirdIndices, thirdAliases⟩ := Cluster.updateAliases_add addedRead
  obtain ⟨nextIndices, nextAliases⟩ := Cluster.updateAliases_add addedWrite
  -- No entry of either alias outlives the removals.
  have gone : ∀ entry ∈ second.aliases,
      entry.aliasName ≠ MESSAGES_READ_ALIAS ∧ entry.aliasName ≠ MESSAGES_WRITE_ALIAS := by
    intro entry member
    rw [secondAliases, firstAliases] at member
    obtain ⟨⟨member, notRead⟩, notWrite⟩ := member
    have listed := mem_getAliasIndices member
    refine ⟨fun read => notRead ⟨read, ?_⟩, fun write => notWrite ⟨write, ?_⟩⟩
    · rw [current.source, ← read]
      exact listed
    · rw [current.previousWrite, ← write]
      exact listed
  have different : MESSAGES_READ_ALIAS ≠ MESSAGES_WRITE_ALIAS := by decide
  have others : ∀ (name : JsString) (entries : List (AliasEntry JsString)),
      (∀ entry ∈ entries, entry ∈ second.aliases) →
        name = MESSAGES_READ_ALIAS ∨ name = MESSAGES_WRITE_ALIAS →
          (entries.filter fun entry => entry.aliasName = name) = [] := by
    intro name entries listed isName
    refine List.filter_eq_nil_iff.mpr fun entry member => ?_
    rw [decide_eq_true_eq]
    obtain ⟨notRead, notWrite⟩ := gone entry (listed entry member)
    rcases isName with rfl | rfl
    · exact notRead
    · exact notWrite
  have kept : ∀ entry ∈ (second.aliases.filter fun other =>
      ¬(other.aliasName = MESSAGES_READ_ALIAS ∧ other.index = plan.targetIndex)).filter fun other =>
        ¬(other.aliasName = MESSAGES_WRITE_ALIAS ∧ other.index = plan.targetIndex),
      entry ∈ second.aliases := fun entry member =>
    List.mem_of_mem_filter (List.mem_of_mem_filter member)
  refine ⟨?_, ?_, ?_⟩
  · rw [nextIndices, thirdIndices, secondIndices, firstIndices]
  · rw [Cluster.aliasEntries, nextAliases, thirdAliases, List.filter_append, List.filter_append,
      List.filter_append, others _ _ kept (Or.inl rfl)]
    simp [different, different.symm]
  · rw [Cluster.aliasEntries, nextAliases, thirdAliases, List.filter_append, List.filter_append,
      List.filter_append, others _ _ kept (Or.inr rfl)]
    simp [different]

/-! ### Steps -/

theorem afterGetAliases_invariant (input : EsReindexInput) (state : ReindexState Number)
    {sourceIndices previousWriteIndices : Option (List JsString)}
    (source : ∀ indices, sourceIndices = some indices →
      indices = getAliasIndices state.elasticsearch MESSAGES_READ_ALIAS)
    (previousWrite : ∀ indices, previousWriteIndices = some indices →
      indices = getAliasIndices state.elasticsearch MESSAGES_WRITE_ALIAS) :
    ({ state with phase := afterGetAliases input sourceIndices previousWriteIndices } :
      ReindexState Number).Invariant := by
  unfold ReindexState.Invariant
  dsimp only
  cases sourceIndices with
  | none => exact ⟨source, previousWrite⟩
  | some sourceIndices =>
    cases previousWriteIndices with
    | none => exact ⟨source, previousWrite⟩
    | some previousWriteIndices =>
      rw [afterGetAliases]
      by_cases nothing : sourceIndices.isEmpty = true
      · rw [if_pos nothing]
        trivial
      · rw [if_neg nothing]
        cases normalized : normalizeTargetIndex input.targetIndex sourceIndices with
        | error message => trivial
        | ok targetIndex =>
          exact ⟨source _ rfl, previousWrite _ rfl, normalizeTargetIndex_named normalized⟩

theorem afterTargetExists_invariant (input : EsReindexInput) (state : ReindexState Number)
    {plan : ReindexPlan} (current : plan.IsCurrent state.elasticsearch) (sourceCount : Nat)
    (targetExists : Bool) :
    ({ state with phase := afterTargetExists input plan sourceCount targetExists } :
      ReindexState Number).Invariant := by
  unfold ReindexState.Invariant
  dsimp only
  rw [afterTargetExists]
  by_cases dryRun : input.dryRun = true
  · rw [if_pos dryRun]
    exact fun swapped => absurd swapped Bool.false_ne_true
  · rw [if_neg dryRun]
    by_cases exists_ : targetExists = true
    · rw [if_pos exists_]
      trivial
    · rw [if_neg exists_]
      exact current

theorem afterCountTarget_invariant {state : ReindexState Number} {plan : ReindexPlan}
    (current : plan.IsCurrent state.elasticsearch)
    (target : plan.HasTarget state.elasticsearch state.seen) (sourceCount targetCount : Nat) :
    ({ state with phase := afterCountTarget plan sourceCount targetCount } :
      ReindexState Number).Invariant := by
  unfold ReindexState.Invariant
  dsimp only
  rw [afterCountTarget]
  by_cases differs : targetCount ≠ sourceCount
  · rw [if_pos differs]
    trivial
  · rw [if_neg differs]
    exact ⟨current, target⟩

/-- A created index is empty, and no alias is attached to it. -/
theorem hasTarget_create {plan : ReindexPlan} {elasticsearch next : Elasticsearch Number}
    (created : elasticsearch.create plan.targetIndex = some next) :
    plan.HasTarget next fun _ => none := by
  obtain ⟨missing, aliases, indices⟩ := Cluster.create_eq_some created
  refine ⟨fun entry member same => ?_, .empty, ?_, rfl, rfl⟩
  · rw [aliases] at member
    exact (elasticsearch.attached entry member).2 (same ▸ missing)
  · rw [indices, Function.update_self]

/-- A finished `_reindex` leaves what it found. -/
theorem hasTarget_load {plan : ReindexPlan} {elasticsearch : Elasticsearch Number}
    (target : plan.HasTarget elasticsearch fun _ => none)
    (found : Collection JsString (EsMessageDocument Number)) :
    plan.HasTarget (elasticsearch.modify plan.targetIndex (·.load found)) found.find := by
  obtain ⟨index, present, stored, _⟩ := target.present
  have loaded : (found.overlay index.stored).find = found.find := by
    funext id
    rw [Collection.find_overlay, stored, Option.or_none]
  refine ⟨target.detached, index.load found, ?_, loaded, loaded⟩
  rw [Cluster.indices_modify, Function.update_self, present, Option.map_some]

/-- An index request of a search indexer keeps the invariant, before and after the swap. -/
theorem ReindexState.Invariant.indexed {state next : ReindexState Number}
    (invariant : state.Invariant) {id : JsString} {body : EsMessageDocument Number}
    {acknowledged : Bool} (moved : state.indexed id body acknowledged = some next) :
    next.Invariant := by
  obtain ⟨elasticsearch, written, moved⟩ := Option.map_eq_some_iff.mp moved
  by_cases returned : state.phase.isReturned = true
  · rw [if_pos returned] at moved
    rw [← moved]
    unfold ReindexState.Invariant at invariant ⊢
    dsimp only
    cases phase : state.phase with
    | returned result =>
      rw [phase] at invariant
      intro swapped
      have kept := (invariant swapped).indexed written
      rw [phase] at kept
      exact kept
    | _ =>
      rw [phase] at returned
      exact nomatch returned
  · rw [if_neg returned] at moved
    rw [← moved]
    obtain ⟨target, takes, isNext⟩ := Option.map_eq_some_iff.mp written
    rw [← isNext]
    exact invariant.background (Bool.eq_false_iff.mpr returned) (Cluster.aliases_modify _ _ _)
      (fun plan content current hasTarget =>
        hasTarget.modify_other (hasTarget.writeTarget_ne current takes) _) _

theorem ReindexState.Invariant.refresh {state : ReindexState Number} (invariant : state.Invariant)
    (name : JsString) :
    ({ state with elasticsearch := state.elasticsearch.refresh name } :
      ReindexState Number).Invariant := by
  by_cases returned : state.phase.isReturned = true
  · unfold ReindexState.Invariant at invariant ⊢
    dsimp only
    cases phase : state.phase with
    | returned result =>
      rw [phase] at invariant
      intro swapped
      have kept := (invariant swapped).refresh name
      rw [phase] at kept
      exact kept
    | _ =>
      rw [phase] at returned
      exact nomatch returned
  · exact invariant.background (Bool.eq_false_iff.mpr returned) (Cluster.aliases_modify _ _ _)
      (fun plan content _ hasTarget => hasTarget.refresh name) state.acknowledged

/-- Every step keeps what holds in its phase. -/
theorem reindexStep_invariant (input : EsReindexInput) {state next : ReindexState Number}
    (action : ReindexAction Number) (invariant : state.Invariant)
    (moved : reindexStep input state action = some next) : next.Invariant := by
  have holds := invariant
  unfold ReindexState.Invariant at holds
  cases reindexStep_transition moved with
  | getReadAlias was =>
    rw [was] at holds
    exact afterGetAliases_invariant input state (fun _ same => (Option.some.inj same).symm)
      holds.2
  | getWriteAlias was =>
    rw [was] at holds
    exact afterGetAliases_invariant input state holds.1 fun _ same => (Option.some.inj same).symm
  | countSource was _ =>
    rw [was] at holds
    exact holds
  | targetExists was =>
    rw [was] at holds
    exact afterTargetExists_invariant input state holds _ _
  | create was created =>
    rw [was] at holds
    exact ⟨holds.of_aliases (Cluster.create_eq_some created).2.1, hasTarget_create created⟩
  | startReindex preferred was =>
    rw [was] at holds
    exact ⟨holds.1, holds.2, rfl⟩
  | reindexFailed _ _ => trivial
  | finishReindex was =>
    rw [was] at holds
    obtain ⟨current, target, same⟩ := holds
    refine ⟨current.of_aliases rfl, ?_⟩
    dsimp only
    rw [← same]
    exact hasTarget_load target _
  | countTarget was _ =>
    rw [was] at holds
    exact afterCountTarget_invariant holds.1 holds.2 _ _
  | updateAliases was applied =>
    rw [was] at holds
    obtain ⟨current, target⟩ := holds
    obtain ⟨indices, read, write⟩ := swapped_updateAliases current applied
    obtain ⟨index, present, stored, visible⟩ := target.present
    refine fun _ => ⟨read, write, index, ?_, ?_, ?_⟩
    · rw [indices]
      exact present
    · exact fun id document found => ⟨document, stored ▸ found, Or.inl rfl⟩
    · exact fun id document found => ⟨document, visible ▸ found, Or.inl rfl⟩
  | fail message _ => trivial
  | indexMessage document result _ indexed => exact invariant.indexed indexed
  | notIndexed document result => exact invariant
  | refresh name => exact invariant.refresh name

/-! ### Completed runs -/

/-- `reindex` returned with swapped aliases. -/
def ReindexPhase.isSwapped : ReindexPhase Number → Bool
  | .returned result => result.aliasesSwapped
  | _ => false

theorem isSwapped_afterGetAliases (input : EsReindexInput)
    (sourceIndices previousWriteIndices : Option (List JsString)) :
    (afterGetAliases input sourceIndices previousWriteIndices :
      ReindexPhase Number).isSwapped = false := by
  cases sourceIndices with
  | none => rfl
  | some sourceIndices =>
    cases previousWriteIndices with
    | none => rfl
    | some previousWriteIndices =>
      rw [afterGetAliases]
      by_cases nothing : sourceIndices.isEmpty = true
      · rw [if_pos nothing]
        rfl
      · rw [if_neg nothing]
        cases normalizeTargetIndex input.targetIndex sourceIndices with
        | error message => rfl
        | ok targetIndex => rfl

theorem isSwapped_afterTargetExists (input : EsReindexInput) (plan : ReindexPlan)
    (sourceCount : Nat) (targetExists : Bool) :
    (afterTargetExists input plan sourceCount targetExists :
      ReindexPhase Number).isSwapped = false := by
  rw [afterTargetExists]
  by_cases dryRun : input.dryRun = true
  · rw [if_pos dryRun]
    rfl
  · rw [if_neg dryRun]
    cases targetExists with
    | true => rfl
    | false => rfl

theorem isSwapped_afterCountTarget (plan : ReindexPlan) (sourceCount targetCount : Nat) :
    (afterCountTarget plan sourceCount targetCount : ReindexPhase Number).isSwapped = false := by
  rw [afterCountTarget]
  by_cases differs : targetCount ≠ sourceCount
  · rw [if_pos differs]
    rfl
  · rw [if_neg differs]
    rfl

/-- What a step may change: a request of `reindex` ends before the return and swaps only as
`updateAliases`; anything else keeps the phase, and after the return keeps what is told of the
time before. -/
inductive ReindexMove (state next : ReindexState Number) (action : ReindexAction Number) : Prop
  | request (running : state.phase.isReturned = false) (since : next.since = state.since)
      (swaps : next.phase.isSwapped = true → action = .updateAliases)
  | background (phase : next.phase = state.phase)
      (running : state.phase.isReturned = false → next.since = state.since)
      (returned : state.phase.isReturned = true →
        next.seen = state.seen ∧ next.acknowledged = state.acknowledged)

theorem ReindexMove.unchanged (state : ReindexState Number) (action : ReindexAction Number) :
    ReindexMove state state action :=
  .background rfl (fun _ => rfl) fun _ => ⟨rfl, rfl⟩

theorem indexed_move {state next : ReindexState Number} {id : JsString}
    {body : EsMessageDocument Number} {acknowledged : Bool} {action : ReindexAction Number}
    (moved : state.indexed id body acknowledged = some next) : ReindexMove state next action := by
  obtain ⟨elasticsearch, _, moved⟩ := Option.map_eq_some_iff.mp moved
  by_cases returned : state.phase.isReturned = true
  · rw [if_pos returned] at moved
    rw [← moved]
    exact .background rfl (fun running => nomatch returned.symm.trans running) fun _ => ⟨rfl, rfl⟩
  · rw [if_neg returned] at moved
    rw [← moved]
    exact .background rfl (fun _ => rfl) fun is => absurd is returned

theorem reindexStep_move {input : EsReindexInput} {state next : ReindexState Number}
    {action : ReindexAction Number} (moved : reindexStep input state action = some next) :
    ReindexMove state next action := by
  have request : ∀ {phase : ReindexPhase Number}, state.phase = phase →
      phase.isReturned = false → state.phase.isReturned = false := by
    intro phase same running
    rw [same]
    exact running
  cases reindexStep_transition moved with
  | getReadAlias was =>
    refine .request (request was rfl) rfl fun swapped => ?_
    exact absurd swapped (Bool.eq_false_iff.mp (isSwapped_afterGetAliases input _ _))
  | getWriteAlias was =>
    refine .request (request was rfl) rfl fun swapped => ?_
    exact absurd swapped (Bool.eq_false_iff.mp (isSwapped_afterGetAliases input _ _))
  | countSource was _ =>
    exact .request (request was rfl) rfl fun swapped => absurd swapped Bool.false_ne_true
  | targetExists was =>
    refine .request (request was rfl) rfl fun swapped => ?_
    exact absurd swapped (Bool.eq_false_iff.mp (isSwapped_afterTargetExists input _ _ _))
  | create was _ =>
    exact .request (request was rfl) rfl fun swapped => absurd swapped Bool.false_ne_true
  | startReindex preferred was =>
    exact .request (request was rfl) rfl fun swapped => absurd swapped Bool.false_ne_true
  | reindexFailed was _ =>
    exact .request (request was rfl) rfl fun swapped => absurd swapped Bool.false_ne_true
  | finishReindex was =>
    exact .request (request was rfl) rfl fun swapped => absurd swapped Bool.false_ne_true
  | countTarget was _ =>
    refine .request (request was rfl) rfl fun swapped => ?_
    exact absurd swapped (Bool.eq_false_iff.mp (isSwapped_afterCountTarget _ _ _))
  | updateAliases was _ => exact .request (request was rfl) rfl fun _ => rfl
  | fail message running =>
    exact .request running rfl fun swapped => absurd swapped Bool.false_ne_true
  | indexMessage document result _ indexed => exact indexed_move indexed
  | notIndexed document result => exact .unchanged state _
  | refresh name => exact .background rfl (fun _ => rfl) fun _ => ⟨rfl, rfl⟩

/-! ### What the swap keeps -/

/-- Every document indexed with success before the swap is found through the read alias, or one
indexed since under its `_id`. -/
def KeepsDocuments (state : ReindexState Number) : Prop :=
  ∀ id document, state.acknowledged id = some document →
    ∃ shown, state.elasticsearch.Readable MESSAGES_READ_ALIAS id shown ∧
      (shown = document ∨ (id, shown) ∈ state.since)

/-- `_reindex` found every document indexed with success before the swap. -/
def SawDocuments (state : ReindexState Number) : Prop :=
  ∀ id document, state.acknowledged id = some document → state.seen id = some document

/-- What holds in every state that is reached. -/
structure ReindexState.Sound (state : ReindexState Number) : Prop where
  invariant : state.Invariant
  since : state.phase.isReturned = false → state.since = []

theorem ReindexState.Sound.start (elasticsearch : Elasticsearch Number) :
    (ReindexState.start elasticsearch).Sound where
  invariant := And.intro nofun nofun
  since _ := rfl

theorem reindex_sound {input : EsReindexInput} {elasticsearch : Elasticsearch Number}
    {actions : List (ReindexAction Number)} {state : ReindexState Number}
    (reached : Transition.run (reindexStep input) (.start elasticsearch) actions = some state) :
    state.Sound := by
  refine Transition.run_invariant (fun state action next sound moved => ?_)
    (ReindexState.Sound.start elasticsearch) reached
  refine ⟨reindexStep_invariant input action sound.invariant moved, fun running => ?_⟩
  rcases reindexStep_move moved with ⟨wasRunning, since, _⟩ | ⟨phase, since, _⟩
  · rw [since]
    exact sound.since wasRunning
  · rw [phase] at running
    rw [since running]
    exact sound.since running

/-- What stays fixed once `reindex` returned. -/
structure ReindexState.Precedes (state later : ReindexState Number) : Prop where
  phase : later.phase = state.phase
  seen : later.seen = state.seen
  acknowledged : later.acknowledged = state.acknowledged

theorem precedes_of_returned {input : EsReindexInput} {state final : ReindexState Number}
    {later : List (ReindexAction Number)} (returned : state.phase.isReturned = true)
    (reached : Transition.run (reindexStep input) state later = some final) :
    state.Precedes final := by
  have itself : state.Precedes state := ⟨rfl, rfl, rfl⟩
  refine Transition.run_invariant (fun middle action next fixed moved => ?_) itself reached
  have middleReturned : middle.phase.isReturned = true := by
    rw [fixed.phase]
    exact returned
  rcases reindexStep_move moved with ⟨running, _, _⟩ | ⟨same, _, kept⟩
  · exact absurd middleReturned (Bool.eq_false_iff.mp running)
  · obtain ⟨sameSeen, sameAcknowledged⟩ := kept middleReturned
    exact ⟨same.trans fixed.phase, sameSeen.trans fixed.seen,
      sameAcknowledged.trans fixed.acknowledged⟩

/-- A document that is read after the swap is in the target. -/
theorem Swapped.readable {state : ReindexState Number} {targetIndex : JsString}
    (swapped : Swapped state targetIndex) {index : Index JsString (EsMessageDocument Number)}
    (present : state.elasticsearch.indices targetIndex = some index) {id : JsString}
    {document : EsMessageDocument Number} :
    state.elasticsearch.Readable MESSAGES_READ_ALIAS id document ↔
      index.visible.find id = some document := by
  rw [Cluster.Readable, Cluster.resolve_single swapped.read present]
  simp only [List.mem_singleton, exists_eq_left]

/-- The moment of the swap: what is read is what `_reindex` saw. -/
theorem swap_step {input : EsReindexInput} {state next : ReindexState Number}
    (sound : state.Sound)
    (moved : reindexStep input state .updateAliases = some next) :
    next.phase.isReturned = true ∧ next.phase.isSwapped = true ∧ next.seen = state.seen ∧
      next.acknowledged = state.acknowledged ∧ next.since = [] ∧
        ∀ id document, next.elasticsearch.Readable MESSAGES_READ_ALIAS id document →
          state.seen id = some document := by
  obtain ⟨holds, none⟩ := sound
  have kept := reindexStep_invariant input .updateAliases holds moved
  unfold ReindexState.Invariant at holds
  cases reindexStep_transition moved with
  | @updateAliases plan _ _ elasticsearch was applied =>
    rw [was] at holds none
    obtain ⟨current, target⟩ := holds
    obtain ⟨index, present, _, visible⟩ := target.present
    have indices := (swapped_updateAliases current applied).1
    have swapped : Swapped _ _ := kept rfl
    refine ⟨rfl, rfl, rfl, rfl, none rfl, fun id document readable => ?_⟩
    have kept : elasticsearch.indices plan.targetIndex = some index := by
      rw [indices]
      exact present
    rw [← visible]
    exact (swapped.readable kept).mp readable

/-- The swap keeps every document indexed before it if and only if `_reindex` saw them all. -/
theorem swap_keeps_iff {input : EsReindexInput} {elasticsearch : Elasticsearch Number}
    {before : List (ReindexAction Number)} {state next : ReindexState Number}
    (reached : Transition.run (reindexStep input) (.start elasticsearch) before = some state)
    (moved : reindexStep input state .updateAliases = some next) :
    (∀ later final, Transition.run (reindexStep input) next later = some final →
      KeepsDocuments final) ↔ SawDocuments state := by
  have sound := reindex_sound reached
  obtain ⟨returned, isSwapped, seen, acknowledged, since, reads⟩ := swap_step sound moved
  constructor
  · intro keeps id document acked
    obtain ⟨shown, readable, same⟩ := keeps [] next rfl id document (acknowledged ▸ acked)
    rw [since] at same
    rcases same with rfl | member
    · exact reads id shown readable
    · exact absurd member List.not_mem_nil
  · intro saw later final finished id document acked
    obtain ⟨phase, finalSeen, finalAcknowledged⟩ := precedes_of_returned returned finished
    have holds : final.Invariant := Transition.run_invariant
      (fun _ action _ holds moved => reindexStep_invariant input action holds moved)
      (reindexStep_invariant input _ sound.invariant moved) finished
    unfold ReindexState.Invariant at holds
    rw [← phase] at isSwapped
    cases finalPhase : final.phase with
    | returned result =>
      rw [finalPhase] at holds isSwapped
      have swapped : Swapped final result.targetIndex := holds isSwapped
      obtain ⟨index, present, _, visible⟩ := swapped.present
      obtain ⟨kept, stored, same⟩ := visible id document (by
        rw [finalSeen, seen]
        exact saw id document (acknowledged ▸ finalAcknowledged ▸ acked))
      exact ⟨kept, (swapped.readable present).mpr stored, same⟩
    | _ =>
      rw [finalPhase] at isSwapped
      exact nomatch isSwapped

/-- A run that returned with swapped aliases made the swap. -/
theorem swapped_run {input : EsReindexInput} {elasticsearch : Elasticsearch Number}
    {actions : List (ReindexAction Number)} {final : ReindexState Number}
    (reached : Transition.run (reindexStep input) (.start elasticsearch) actions = some final)
    (swapped : final.phase.isSwapped = true) :
    ∃ before later state next, actions = before ++ .updateAliases :: later ∧
      Transition.run (reindexStep input) (.start elasticsearch) before = some state ∧
      reindexStep input state .updateAliases = some next ∧
      Transition.run (reindexStep input) next later = some final := by
  induction actions using List.reverseRecOn generalizing final with
  | nil =>
    rw [Transition.run_nil, Option.some_inj] at reached
    rw [← reached] at swapped
    exact nomatch swapped
  | append_singleton earlier action inductionHypothesis =>
    obtain ⟨middle, before, moved⟩ := Transition.run_concat_eq_some.mp reached
    have goesOn : middle.phase.isSwapped = true →
        ∃ before later state next, earlier ++ [action] = before ++ .updateAliases :: later ∧
          Transition.run (reindexStep input) (.start elasticsearch) before = some state ∧
          reindexStep input state .updateAliases = some next ∧
          Transition.run (reindexStep input) next later = some final := by
      intro middleSwapped
      obtain ⟨first, later, state, next, same, toState, swap, toMiddle⟩ :=
        inductionHypothesis before middleSwapped
      refine ⟨first, later ++ [action], state, next, ?_, toState, swap, ?_⟩
      · rw [same, List.append_assoc, List.cons_append]
      · exact Transition.run_concat_eq_some.mpr ⟨middle, toMiddle, moved⟩
    rcases reindexStep_move moved with ⟨_, _, swaps⟩ | ⟨phase, _, _⟩
    · have isSwap := swaps swapped
      subst isSwap
      exact ⟨earlier, [], middle, final, rfl, before, moved, rfl⟩
    · exact goesOn (phase ▸ swapped)

/-- A run of `reindex` that returned with swapped aliases made a swap, and from the swap on every
document indexed before it is read if and only if `_reindex` saw them all when it started. -/
theorem reindex_keeps_documents_iff {input : EsReindexInput} {elasticsearch : Elasticsearch Number}
    {actions : List (ReindexAction Number)} {final : ReindexState Number}
    (reached : Transition.run (reindexStep input) (.start elasticsearch) actions = some final)
    (swapped : final.phase.isSwapped = true) :
    ∃ before later state next, actions = before ++ .updateAliases :: later ∧
      Transition.run (reindexStep input) (.start elasticsearch) before = some state ∧
      reindexStep input state .updateAliases = some next ∧
      Transition.run (reindexStep input) next later = some final ∧
      ((∀ labels other, Transition.run (reindexStep input) next labels = some other →
        KeepsDocuments other) ↔ SawDocuments state) := by
  obtain ⟨before, later, state, next, same, toState, moved, toFinal⟩ := swapped_run reached swapped
  exact ⟨before, later, state, next, same, toState, moved, toFinal, swap_keeps_iff toState moved⟩

end Phases

/-! ### Two runs -/

def MESSAGES_PHYSICAL_INDEX : JsString := jsString "messages-v1"

/-- An empty index behind both aliases. -/
def exampleElasticsearch : Elasticsearch Nat where
  indices := fun name => if name = MESSAGES_PHYSICAL_INDEX then some .empty else none
  aliases := [⟨MESSAGES_READ_ALIAS, MESSAGES_PHYSICAL_INDEX, none⟩,
    ⟨MESSAGES_WRITE_ALIAS, MESSAGES_PHYSICAL_INDEX, some true⟩]
  attached := by
    intro entry member
    simp only [List.mem_cons, List.not_mem_nil, or_false] at member
    rcases member with rfl | rfl
    · exact ⟨rfl, nofun⟩
    · exact ⟨rfl, nofun⟩
  distinct := by decide

def exampleSearchDocument (id : String) : SearchMessageDocument Nat where
  id := jsString id
  conversationId := jsString "conversation-1"
  senderId := jsString "sender-1"
  content := jsString "hello"
  timestamp := JsDate.ofMs 1767225600000
  metadata := none

def exampleReindexInput : EsReindexInput := ⟨false, some (jsString "v2")⟩

/-- The requests of `reindex`, with what a search indexer does before it and after the copy. -/
def reindexRequests (first second : List (ReindexAction Nat)) : List (ReindexAction Nat) :=
  first ++ [.getReadAlias, .getWriteAlias, .countSource, .targetExists, .create,
    .startReindex fun _ => MESSAGES_PHYSICAL_INDEX, .finishReindex 0] ++
      second ++ [.countTarget, .updateAliases]

/-- The second document is indexed while `_reindex` is done and the target not counted yet. -/
def racingReindex : List (ReindexAction Nat) :=
  reindexRequests
    [.indexMessage (exampleSearchDocument "message-1") .succeeded, .refresh MESSAGES_PHYSICAL_INDEX]
    [.indexMessage (exampleSearchDocument "message-2") .succeeded]

/-- The counts agree, the aliases are swapped, and the second document is not found any more. -/
theorem reindex_loses_document :
    ∃ final, Transition.run (reindexStep exampleReindexInput) (.start exampleElasticsearch)
        racingReindex = some final ∧
      final.phase.isSwapped = true ∧ ¬ KeepsDocuments final := by
  have runs : (Transition.run (reindexStep exampleReindexInput) (.start exampleElasticsearch)
      racingReindex).any (fun final => final.phase.isSwapped &&
        (final.acknowledged (jsString "message-2")).isSome &&
        (final.elasticsearch.resolve MESSAGES_READ_ALIAS).all fun entry =>
          (entry.2.visible.find (jsString "message-2")).isNone) = true := by
    decide +kernel
  obtain ⟨final, reached, holds⟩ := (Option.any_eq_true _ _).mp runs
  rw [Bool.and_eq_true, Bool.and_eq_true] at holds
  obtain ⟨⟨swapped, acknowledged⟩, hidden⟩ := holds
  refine ⟨final, reached, swapped, fun keeps => ?_⟩
  obtain ⟨document, acked⟩ := Option.isSome_iff_exists.mp acknowledged
  obtain ⟨shown, ⟨entry, member, visible⟩, _⟩ := keeps _ document acked
  have missing := List.all_eq_true.mp hidden entry member
  rw [visible] at missing
  exact Bool.false_ne_true missing

/-- Both documents are indexed and refreshed before. -/
def quietReindex : List (ReindexAction Nat) :=
  reindexRequests
    [.indexMessage (exampleSearchDocument "message-1") .succeeded,
      .indexMessage (exampleSearchDocument "message-2") .succeeded,
      .refresh MESSAGES_PHYSICAL_INDEX]
    []

theorem reindex_keeps_documents_quiet :
    ∃ final : ReindexState Nat,
      Transition.run (reindexStep exampleReindexInput) (.start exampleElasticsearch) quietReindex =
        some final ∧
      final.phase.isSwapped = true ∧
      ∃ before later state next, quietReindex = before ++ .updateAliases :: later ∧
        Transition.run (reindexStep exampleReindexInput) (.start exampleElasticsearch) before =
          some state ∧
        reindexStep exampleReindexInput state .updateAliases = some next ∧
        Transition.run (reindexStep exampleReindexInput) next later = some final ∧
        ((∀ labels other, Transition.run (reindexStep exampleReindexInput) next labels =
          some other → KeepsDocuments other) ↔ SawDocuments state) := by
  have runs : (Transition.run (reindexStep exampleReindexInput) (.start exampleElasticsearch)
      quietReindex).any (fun final => final.phase.isSwapped) = true := by decide +kernel
  obtain ⟨final, reached, swapped⟩ := (Option.any_eq_true _ _).mp runs
  exact ⟨final, reached, swapped, reindex_keeps_documents_iff reached swapped⟩

end MessageManagement
