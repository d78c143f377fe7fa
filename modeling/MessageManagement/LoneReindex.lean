/-
This file follows `EsReindexService.reindex` where nobody else writes: every
request of a run may fail, and `_reindex` may copy any part of what it finds, in
any order, the later document in place of the earlier one.

The service trusts one comparison of two counts. The first count has a document
of two indices twice, and the second one has what was copied under each id once,
so the two agree only if everything was copied and nothing was merged.
-/

import MessageManagement.Reindex

namespace MessageManagement

open SearchCluster

variable {Number : Type}

/-! ### Requests -/

/-- `copy` answers `_reindex` with the copies it made and the number of its failures; the others
are actions of `reindexStep`. -/
inductive LoneAction (Number : Type)
  | copy (copies : List (Cluster.Copy JsString JsString)) (failures : Nat)
  | other (action : ReindexAction Number)

/-- Neither a write of another client nor a part of `_reindex`. -/
def ReindexAction.isQuiet : ReindexAction Number → Bool
  | .startReindex _ => false
  | .finishReindex _ => false
  | .indexMessage _ _ => false
  | _ => true

def loneStep (input : EsReindexInput) (state : Elasticsearch Number × ReindexPhase Number) :
    LoneAction Number → Option (Elasticsearch Number × ReindexPhase Number)
  | .copy copies failures =>
    match state.2 with
    | .reindex plan sourceCount =>
      some (state.1.modify plan.targetIndex (·.load
          (Cluster.copied (state.1.resolve MESSAGES_READ_ALIAS) copies)),
        if 0 < failures then
          .failed (jsString s!"Elasticsearch reindex reported {failures} failures.")
        else .countTarget plan sourceCount)
    | _ => none
  | .other action =>
    if action.isQuiet then
      (reindexStep input { ReindexState.start state.1 with phase := state.2 } action).map
        fun next => (next.elasticsearch, next.phase)
    else none

/-! ### What a run leaves -/

/-- All earlier writes are refreshed. -/
def Refreshed (elasticsearch : Elasticsearch Number) : Prop :=
  ∀ name index, elasticsearch.indices name = some index → index.visible = index.stored

/-- The aliases resolve as before, and every index is there with its documents. -/
structure Untouched (before after : Elasticsearch Number) : Prop where
  aliases : after.aliases = before.aliases
  indices : ∀ name index, before.indices name = some index → after.indices name = some index

/-- Both aliases resolve to a target that did not exist, its documents are those that were visible
through the read alias, each id of one index, and every index is there with its documents. -/
structure SwappedOver (before after : Elasticsearch Number) (targetIndex : JsString) : Prop where
  read : after.aliasIndices MESSAGES_READ_ALIAS = [targetIndex]
  write : after.aliasIndices MESSAGES_WRITE_ALIAS = [targetIndex]
  fresh : before.resolve targetIndex = []
  documents : ∃ index, after.indices targetIndex = some index ∧ index.visible = index.stored ∧
    ∀ id document, index.visible.find id = some document ↔
      before.Readable MESSAGES_READ_ALIAS id document
  single : ∀ first ∈ before.resolve MESSAGES_READ_ALIAS,
    ∀ second ∈ before.resolve MESSAGES_READ_ALIAS, ∀ id, first.2.visible.find id ≠ none →
      second.2.visible.find id ≠ none → first = second
  indices : ∀ name index, before.indices name = some index → after.indices name = some index

/-! ### The phases of a run -/

/-- What is known of the plan once its target is to be created. -/
structure ReindexPlan.IsReady (input : EsReindexInput) (before : Elasticsearch Number)
    (plan : ReindexPlan) (sourceCount : Nat) : Prop where
  current : plan.IsCurrent before
  counted : before.count MESSAGES_READ_ALIAS = some sourceCount
  real : input.dryRun = false
  fresh : before.resolve plan.targetIndex = []

/-- Only the target was added. -/
structure AddedIndex (before after : Elasticsearch Number) (targetIndex : JsString)
    (index : Index JsString (EsMessageDocument Number)) : Prop where
  missing : before.indices targetIndex = none
  aliases : after.aliases = before.aliases
  indices : after.indices = Function.update before.indices targetIndex (some index)

/-- What holds in each phase. -/
def LoneInvariant (input : EsReindexInput) (before : Elasticsearch Number)
    (state : Elasticsearch Number × ReindexPhase Number) : Prop :=
  match state.2 with
  | .getAliases sourceIndices previousWriteIndices =>
    state.1 = before ∧
      (∀ indices, sourceIndices = some indices →
        indices = getAliasIndices before MESSAGES_READ_ALIAS) ∧
      ∀ indices, previousWriteIndices = some indices →
        indices = getAliasIndices before MESSAGES_WRITE_ALIAS
  | .countSource plan => state.1 = before ∧ plan.IsCurrent before
  | .targetExists plan sourceCount =>
    state.1 = before ∧ plan.IsCurrent before ∧
      before.count MESSAGES_READ_ALIAS = some sourceCount
  | .create plan sourceCount => state.1 = before ∧ plan.IsReady input before sourceCount
  | .reindex plan sourceCount =>
    plan.IsReady input before sourceCount ∧ AddedIndex before state.1 plan.targetIndex .empty
  | .copying _ _ _ => False
  | .countTarget plan sourceCount =>
    plan.IsReady input before sourceCount ∧
      ∃ index, AddedIndex before state.1 plan.targetIndex index ∧
        Cluster.CopiedFrom (before.resolve MESSAGES_READ_ALIAS) index.visible
  | .updateAliases plan sourceCount _ =>
    plan.IsReady input before sourceCount ∧
      ∃ index, AddedIndex before state.1 plan.targetIndex index ∧
        Cluster.CopiedFrom (before.resolve MESSAGES_READ_ALIAS) index.visible ∧
          index.count = sourceCount
  | .returned result =>
    (result.aliasesSwapped = true →
      input.dryRun = false ∧ SwappedOver before state.1 result.targetIndex) ∧
    (result.aliasesSwapped = false → state.1 = before)
  | .failed _ => Untouched before state.1

section Steps

variable {input : EsReindexInput} {before elasticsearch next : Elasticsearch Number}
  {targetIndex : JsString} {index : Index JsString (EsMessageDocument Number)}

theorem Untouched.itself (elasticsearch : Elasticsearch Number) :
    Untouched elasticsearch elasticsearch :=
  ⟨rfl, fun _ _ present => present⟩

theorem AddedIndex.kept (added : AddedIndex before elasticsearch targetIndex index)
    (name : JsString) (other : Index JsString (EsMessageDocument Number))
    (present : before.indices name = some other) : elasticsearch.indices name = some other := by
  have different : name ≠ targetIndex := by
    rintro rfl
    exact nomatch added.missing.symm.trans present
  rw [added.indices, Function.update_of_ne different, present]

theorem AddedIndex.untouched (added : AddedIndex before elasticsearch targetIndex index) :
    Untouched before elasticsearch :=
  ⟨added.aliases, added.kept⟩

theorem AddedIndex.present (added : AddedIndex before elasticsearch targetIndex index) :
    elasticsearch.indices targetIndex = some index := by
  rw [added.indices, Function.update_self]

/-- The target is behind no alias, so an alias resolves as before. -/
theorem AddedIndex.resolve (added : AddedIndex before elasticsearch targetIndex index)
    {name : JsString} (other : name ≠ targetIndex) :
    elasticsearch.resolve name = before.resolve name := by
  have aliases : elasticsearch.aliasIndices name = before.aliasIndices name := by
    rw [Cluster.aliasIndices, Cluster.aliasIndices, Cluster.aliasEntries, Cluster.aliasEntries,
      added.aliases]
  rw [Cluster.resolve, Cluster.resolve, aliases, added.indices, Function.update_of_ne other]
  cases before.indices name with
  | some own => rfl
  | none =>
    refine List.filterMap_congr fun behind member => ?_
    obtain ⟨entry, isEntry, rfl⟩ := List.mem_map.mp member
    have attached : entry.index ≠ targetIndex := by
      rintro same
      refine (before.attached entry (List.mem_of_mem_filter isEntry)).2 ?_
      rw [same]
      exact added.missing
    rw [Function.update_of_ne attached]

theorem ReindexPlan.IsReady.readAlias_ne {plan : ReindexPlan} {sourceCount : Nat}
    (ready : plan.IsReady input before sourceCount) : MESSAGES_READ_ALIAS ≠ plan.targetIndex := by
  intro same
  have named := ready.current.named
  rw [← same] at named
  exact absurd named (by decide)

/-! ### The requests one by one -/

theorem count_eq_some {name : JsString} {total : Nat}
    (counted : elasticsearch.count name = some total) :
    ((elasticsearch.resolve name).map fun entry => entry.2.count).sum = total := by
  unfold Cluster.count at counted
  split at counted
  · exact nomatch counted
  · rename_i resolved
    rw [resolved]
    exact Option.some.inj counted

theorem count_index (present : elasticsearch.indices targetIndex = some index) :
    elasticsearch.count targetIndex = some index.count := by
  rw [Cluster.count, Cluster.resolve, present]
  rfl

theorem afterGetAliases_lone {sourceIndices previousWriteIndices : Option (List JsString)}
    (source : ∀ indices, sourceIndices = some indices →
      indices = getAliasIndices before MESSAGES_READ_ALIAS)
    (previousWrite : ∀ indices, previousWriteIndices = some indices →
      indices = getAliasIndices before MESSAGES_WRITE_ALIAS) :
    LoneInvariant input before
      (before, afterGetAliases input sourceIndices previousWriteIndices) := by
  unfold LoneInvariant
  dsimp only
  cases sourceIndices with
  | none => exact ⟨rfl, source, previousWrite⟩
  | some sourceIndices =>
    cases previousWriteIndices with
    | none => exact ⟨rfl, source, previousWrite⟩
    | some previousWriteIndices =>
      rw [afterGetAliases]
      by_cases nothing : sourceIndices.isEmpty = true
      · rw [if_pos nothing]
        exact .itself before
      · rw [if_neg nothing]
        cases normalized : normalizeTargetIndex input.targetIndex sourceIndices with
        | error message => exact .itself before
        | ok targetIndex =>
          exact ⟨rfl, source _ rfl, previousWrite _ rfl, normalizeTargetIndex_named normalized⟩

variable {plan : ReindexPlan} {sourceCount : Nat}

theorem afterTargetExists_lone (current : plan.IsCurrent before)
    (counted : before.count MESSAGES_READ_ALIAS = some sourceCount) :
    LoneInvariant input before
      (before, afterTargetExists input plan sourceCount
        (!(before.resolve plan.targetIndex).isEmpty)) := by
  unfold LoneInvariant
  dsimp only
  rw [afterTargetExists]
  by_cases dryRun : input.dryRun = true
  · rw [if_pos dryRun]
    exact ⟨fun swapped => absurd swapped Bool.false_ne_true, fun _ => rfl⟩
  · rw [if_neg dryRun]
    cases resolved : before.resolve plan.targetIndex with
    | nil => exact ⟨rfl, current, counted, Bool.eq_false_iff.mpr dryRun, resolved⟩
    | cons first rest => exact .itself before

theorem AddedIndex.create (created : before.create targetIndex = some next) :
    AddedIndex before next targetIndex .empty := by
  obtain ⟨missing, aliases, indices⟩ := Cluster.create_eq_some created
  exact ⟨missing, aliases, indices⟩

/-- What `_reindex` copies is the target's content, also where some documents failed. -/
theorem AddedIndex.load (added : AddedIndex before elasticsearch targetIndex .empty)
    (documents : Collection JsString (EsMessageDocument Number)) :
    AddedIndex before (elasticsearch.modify targetIndex (·.load documents)) targetIndex
      ⟨documents, documents⟩ := by
  refine ⟨added.missing, added.aliases, ?_⟩
  have loaded : (Index.empty : Index JsString (EsMessageDocument Number)).load documents =
      ⟨documents, documents⟩ := by
    rw [Index.load, Index.refresh]
    exact congrArg (fun stored => (⟨stored, stored⟩ : Index JsString (EsMessageDocument Number)))
      documents.overlay_empty
  rw [Cluster.indices_modify, added.present, Option.map_some, loaded, added.indices,
    Function.update_idem]

theorem copy_lone {copies : List (Cluster.Copy JsString JsString)} {failures : Nat}
    (ready : plan.IsReady input before sourceCount)
    (added : AddedIndex before elasticsearch plan.targetIndex .empty) :
    LoneInvariant input before
      (elasticsearch.modify plan.targetIndex (·.load
          (Cluster.copied (elasticsearch.resolve MESSAGES_READ_ALIAS) copies)),
        if 0 < failures then
          .failed (jsString s!"Elasticsearch reindex reported {failures} failures.")
        else .countTarget plan sourceCount) := by
  have loaded := added.load (Cluster.copied (elasticsearch.resolve MESSAGES_READ_ALIAS) copies)
  unfold LoneInvariant
  dsimp only
  by_cases some : 0 < failures
  · rw [if_pos some]
    exact loaded.untouched
  · rw [if_neg some]
    refine ⟨ready, _, loaded, ?_⟩
    rw [added.resolve ready.readAlias_ne]
    exact Cluster.copiedFrom_copied _ copies

theorem afterCountTarget_lone {targetCount : Nat} (ready : plan.IsReady input before sourceCount)
    (added : AddedIndex before elasticsearch plan.targetIndex index)
    (faithful : Cluster.CopiedFrom (before.resolve MESSAGES_READ_ALIAS) index.visible)
    (counted : elasticsearch.count plan.targetIndex = some targetCount) :
    LoneInvariant input before
      (elasticsearch, afterCountTarget plan sourceCount targetCount) := by
  have same := Option.some.inj ((count_index added.present).symm.trans counted)
  unfold LoneInvariant
  dsimp only
  rw [afterCountTarget]
  by_cases differs : targetCount ≠ sourceCount
  · rw [if_pos differs]
    exact added.untouched
  · rw [if_neg differs]
    exact ⟨ready, index, added, faithful, same.trans (not_not.mp differs)⟩

/-- The swap, with equal counts. -/
theorem swap_lone (refreshed : Refreshed elasticsearch)
    (ready : plan.IsReady input before sourceCount)
    (added : AddedIndex before elasticsearch plan.targetIndex index)
    (faithful : Cluster.CopiedFrom (before.resolve MESSAGES_READ_ALIAS) index.visible)
    (counted : index.count = sourceCount)
    (applied : elasticsearch.updateAliases (buildAliasSwapActions plan.sourceIndices
      plan.previousWriteIndices plan.targetIndex) = some next) :
    SwappedOver before next plan.targetIndex := by
  obtain ⟨indices, read, write⟩ :=
    swapped_updateAliases (ready.current.of_aliases added.aliases) applied
  have equal : ((before.resolve MESSAGES_READ_ALIAS).map fun entry => entry.2.count).sum =
      index.visible.entries.length := by
    rw [count_eq_some ready.counted, ← counted, Index.count]
  obtain ⟨all, single⟩ := faithful.complete equal
  refine ⟨?_, ?_, ready.fresh, ⟨index, ?_, refreshed _ _ added.present, fun id document => ?_⟩,
    single, fun name other present => ?_⟩
  · rw [Cluster.aliasIndices, read]
    rfl
  · rw [Cluster.aliasIndices, write]
    rfl
  · rw [indices]
    exact added.present
  · refine ⟨faithful id document, ?_⟩
    rintro ⟨entry, isSource, stored⟩
    exact all entry isSource id document stored
  · rw [indices]
    exact added.kept name other present

/-! ### Runs -/

/-- With every write refreshed, a refresh changes nothing. -/
theorem Refreshed.refresh (refreshed : Refreshed elasticsearch) (name : JsString) :
    elasticsearch.refresh name = elasticsearch := by
  have same : Function.update elasticsearch.indices name
      ((elasticsearch.indices name).map Index.refresh) = elasticsearch.indices := by
    funext other
    by_cases own : other = name
    · rw [own, Function.update_self]
      cases present : elasticsearch.indices name with
      | none => rfl
      | some index =>
        have visible := refreshed name index present
        cases index
        dsimp only at visible
        rw [visible]
        rfl
    · rw [Function.update_of_ne own]
  rw [Cluster.refresh, Cluster.modify]
  cases elasticsearch
  simp only [Cluster.mk.injEq, and_true]
  exact same

theorem Refreshed.update {name : JsString} (refreshed : Refreshed elasticsearch)
    (indices : next.indices = Function.update elasticsearch.indices name (some index))
    (visible : index.visible = index.stored) : Refreshed next := by
  intro other found present
  rw [indices] at present
  by_cases own : other = name
  · rw [own, Function.update_self, Option.some_inj] at present
    exact present ▸ visible
  · rw [Function.update_of_ne own] at present
    exact refreshed other found present

/-- What is loaded is refreshed. -/
theorem Refreshed.load (refreshed : Refreshed elasticsearch) (name : JsString)
    (documents : Collection JsString (EsMessageDocument Number)) :
    Refreshed (elasticsearch.modify name (·.load documents)) := by
  intro other found present
  rw [Cluster.indices_modify] at present
  by_cases own : other = name
  · rw [own, Function.update_self] at present
    obtain ⟨index, _, rfl⟩ := Option.map_eq_some_iff.mp present
    rfl
  · rw [Function.update_of_ne own] at present
    exact refreshed other found present

/-- Before the swap nothing is touched but the target. -/
theorem untouched_of_invariant {phase : ReindexPhase Number}
    (invariant : LoneInvariant input before (elasticsearch, phase))
    (notSwapped : phase.isSwapped = false) : Untouched before elasticsearch := by
  cases phase with
  | reindex plan sourceCount => exact invariant.2.untouched
  | copying plan sourceCount found => exact invariant.elim
  | countTarget plan sourceCount =>
    obtain ⟨_, _, added, _⟩ := invariant
    exact added.untouched
  | updateAliases plan sourceCount targetCount =>
    obtain ⟨_, _, added, _⟩ := invariant
    exact added.untouched
  | returned result => exact invariant.2 notSwapped ▸ .itself before
  | failed message => exact invariant
  | _ => exact invariant.1 ▸ .itself before

/-- What holds in every state that is reached. -/
structure LoneSound (input : EsReindexInput) (before : Elasticsearch Number)
    (state : Elasticsearch Number × ReindexPhase Number) : Prop where
  refreshed : Refreshed state.1
  invariant : LoneInvariant input before state

theorem LoneSound.copy {state after : Elasticsearch Number × ReindexPhase Number}
    {copies : List (Cluster.Copy JsString JsString)} {failures : Nat}
    (sound : LoneSound input before state)
    (moved : loneStep input state (.copy copies failures) = some after) :
    LoneSound input before after := by
  obtain ⟨elasticsearch, phase⟩ := state
  obtain ⟨refreshed, invariant⟩ := sound
  cases phase with
  | reindex plan sourceCount =>
    obtain ⟨ready, added⟩ := invariant
    rw [← Option.some.inj moved]
    exact ⟨refreshed.load _ _, copy_lone ready added⟩
  | _ => exact nomatch moved

theorem LoneSound.other {state after : Elasticsearch Number × ReindexPhase Number}
    {action : ReindexAction Number} (sound : LoneSound input before state)
    (moved : loneStep input state (.other action) = some after) :
    LoneSound input before after := by
  obtain ⟨elasticsearch, phase⟩ := state
  obtain ⟨refreshed, invariant⟩ := sound
  rw [loneStep, Option.ite_none_right_eq_some] at moved
  obtain ⟨quiet, moved⟩ := moved
  obtain ⟨next, stepped, rfl⟩ := Option.map_eq_some_iff.mp moved
  dsimp only at refreshed stepped ⊢
  cases reindexStep_transition stepped with
  | getReadAlias was =>
    obtain rfl := was
    obtain ⟨rfl, _, previousWrite⟩ := invariant
    exact ⟨refreshed, afterGetAliases_lone (fun _ same => (Option.some.inj same).symm)
      previousWrite⟩
  | getWriteAlias was =>
    obtain rfl := was
    obtain ⟨rfl, source, _⟩ := invariant
    exact ⟨refreshed, afterGetAliases_lone source fun _ same => (Option.some.inj same).symm⟩
  | countSource was counted =>
    obtain rfl := was
    obtain ⟨rfl, current⟩ := invariant
    exact ⟨refreshed, rfl, current, counted⟩
  | targetExists was =>
    obtain rfl := was
    obtain ⟨rfl, current, counted⟩ := invariant
    exact ⟨refreshed, afterTargetExists_lone current counted⟩
  | create was created =>
    obtain rfl := was
    obtain ⟨rfl, ready⟩ := invariant
    have added := AddedIndex.create created
    exact ⟨refreshed.update added.indices rfl, ready, added⟩
  | startReindex preferred _ => cases quiet
  | reindexFailed _ _ => cases quiet
  | finishReindex _ => cases quiet
  | countTarget was counted =>
    obtain rfl := was
    obtain ⟨ready, index, added, faithful⟩ := invariant
    exact ⟨refreshed, afterCountTarget_lone ready added faithful counted⟩
  | @updateAliases plan _ _ swapped was applied =>
    obtain rfl := was
    obtain ⟨ready, index, added, faithful, counted⟩ := invariant
    have isOver : SwappedOver before swapped plan.targetIndex :=
      swap_lone refreshed ready added faithful counted applied
    have indices : swapped.indices = elasticsearch.indices :=
      (swapped_updateAliases (ready.current.of_aliases added.aliases) applied).1
    have stillRefreshed : Refreshed swapped := by
      intro name other present
      rw [indices] at present
      exact refreshed name other present
    exact ⟨stillRefreshed, fun _ => ⟨ready.real, isOver⟩,
      fun notSwapped => absurd notSwapped.symm Bool.false_ne_true⟩
  | fail message running =>
    refine ⟨refreshed, untouched_of_invariant invariant ?_⟩
    cases phase with
    | returned result => exact absurd running.symm Bool.false_ne_true
    | _ => rfl
  | indexMessage document result _ _ => cases quiet
  | notIndexed document result => cases quiet
  | refresh name =>
    dsimp only [ReindexState.start]
    rw [refreshed.refresh name]
    exact ⟨refreshed, invariant⟩

theorem LoneSound.run {actions : List (LoneAction Number)}
    {state : Elasticsearch Number × ReindexPhase Number} (refreshed : Refreshed before)
    (reached : Transition.run (loneStep input) (before, .getAliases none none) actions =
      some state) : LoneSound input before state := by
  have start : LoneSound input before (before, .getAliases none none) :=
    ⟨refreshed, rfl, nofun, nofun⟩
  refine Transition.run_invariant (fun state action next sound moved => ?_) start reached
  cases action with
  | copy copies failures => exact sound.copy moved
  | other action => exact sound.other moved

end Steps

/-- `reindex` rejected. -/
def ReindexPhase.isRejected : ReindexPhase Number → Bool
  | .failed _ => true
  | _ => false

/-- Whatever the state of Elasticsearch, the input and the requests that fail: a run that rejects
or is dry leaves the aliases and every index as they were, and one that returns with swapped
aliases has put all visible documents, and nothing else, in a new index behind both. -/
theorem reindex_all_or_nothing {input : EsReindexInput} {before after : Elasticsearch Number}
    (refreshed : Refreshed before) {actions : List (LoneAction Number)}
    {phase : ReindexPhase Number}
    (reached : Transition.run (loneStep input) (before, .getAliases none none) actions =
      some (after, phase)) :
    (phase.isRejected = true ∨ input.dryRun = true → Untouched before after) ∧
      ∀ result, phase = .returned result → result.aliasesSwapped = true →
        SwappedOver before after result.targetIndex := by
  have invariant := (LoneSound.run refreshed reached).invariant
  refine ⟨fun ends => untouched_of_invariant invariant ?_, fun result isReturned swapped => ?_⟩
  · cases phase with
    | returned result =>
      have dryRun := ends.resolve_left Bool.false_ne_true
      refine Bool.eq_false_iff.mpr fun swapped => ?_
      have real := (invariant.1 swapped).1
      exact absurd dryRun (Bool.eq_false_iff.mp real)
    | _ => rfl
  · subst isReturned
    exact (invariant.1 swapped).2

/-! ### A run -/

/-- `reindex` returned with both aliases swapped to this index. -/
def ReindexPhase.isSwappedTo (targetIndex : JsString) : ReindexPhase Number → Bool
  | .returned result => result.aliasesSwapped && decide (result.targetIndex = targetIndex)
  | _ => false

def SECOND_PHYSICAL_INDEX : JsString := jsString "messages-v2"

/-- Two empty indices are behind the read alias, the second one behind the write alias. -/
def spreadElasticsearch : Elasticsearch Nat where
  indices := fun name =>
    if name = MESSAGES_PHYSICAL_INDEX ∨ name = SECOND_PHYSICAL_INDEX then some .empty else none
  aliases := [⟨MESSAGES_READ_ALIAS, MESSAGES_PHYSICAL_INDEX, none⟩,
    ⟨MESSAGES_READ_ALIAS, SECOND_PHYSICAL_INDEX, none⟩,
    ⟨MESSAGES_WRITE_ALIAS, SECOND_PHYSICAL_INDEX, some true⟩]
  attached := by
    intro entry member
    simp only [List.mem_cons, List.not_mem_nil, or_false] at member
    rcases member with rfl | rfl | rfl
    · exact ⟨rfl, Option.some_ne_none _⟩
    · exact ⟨rfl, Option.some_ne_none _⟩
    · exact ⟨rfl, Option.some_ne_none _⟩
  distinct := by decide

def spreadDocument (id content : String) : EsMessageDocument Nat where
  id := jsString id
  conversationId := jsString "conversation-1"
  senderId := jsString "sender-1"
  content := jsString content
  timestamp := jsString "2024-05-01T00:00:00.000Z"
  metadata := none

/-- Two messages are in the first index, a third one is in the second. -/
def loadedElasticsearch : Elasticsearch Nat :=
  (spreadElasticsearch.modify MESSAGES_PHYSICAL_INDEX (·.load
    ((Collection.empty.put (jsString "message-1") (spreadDocument "message-1" "hello")).put
      (jsString "message-2") (spreadDocument "message-2" "world")))).modify
        SECOND_PHYSICAL_INDEX (·.load
          (Collection.empty.put (jsString "message-3") (spreadDocument "message-3" "again")))

theorem refreshed_loadedElasticsearch : Refreshed loadedElasticsearch := by
  have initially : Refreshed spreadElasticsearch := by
    intro name index present
    have isEmpty : (if name = MESSAGES_PHYSICAL_INDEX ∨ name = SECOND_PHYSICAL_INDEX then
        some .empty else none) = some index := present
    rw [Option.ite_none_right_eq_some, Option.some_inj] at isEmpty
    rw [← isEmpty.2]
    rfl
  exact (initially.load _ _).load _ _

/-- A dry run is not asked for, and no target is named. -/
def nextReindexInput : EsReindexInput := ⟨false, none⟩

/-- The messages of both indices are copied, counted once on both sides, and swapped over to the
index after them. -/
theorem copied_messages_swapped_over :
    ∃ after result,
      Transition.run (loneStep nextReindexInput) (loadedElasticsearch, .getAliases none none)
        [.other .getWriteAlias, .other .getReadAlias, .other .countSource, .other .targetExists,
          .other .create,
          .copy [⟨SECOND_PHYSICAL_INDEX, jsString "message-3", false⟩,
            ⟨MESSAGES_PHYSICAL_INDEX, jsString "message-1", false⟩,
            ⟨MESSAGES_PHYSICAL_INDEX, jsString "message-2", false⟩] 0,
          .other .countTarget, .other .updateAliases] = some (after, .returned result) ∧
      result.targetIndex = jsString "messages-v3" ∧
      SwappedOver loadedElasticsearch after result.targetIndex := by
  have runs : (Transition.run (loneStep nextReindexInput)
      (loadedElasticsearch, .getAliases none none)
        [.other .getWriteAlias, .other .getReadAlias, .other .countSource, .other .targetExists,
          .other .create,
          .copy [⟨SECOND_PHYSICAL_INDEX, jsString "message-3", false⟩,
            ⟨MESSAGES_PHYSICAL_INDEX, jsString "message-1", false⟩,
            ⟨MESSAGES_PHYSICAL_INDEX, jsString "message-2", false⟩] 0,
          .other .countTarget, .other .updateAliases]).any (fun final =>
            final.2.isSwappedTo (jsString "messages-v3")) = true := by
    decide +kernel
  obtain ⟨⟨after, phase⟩, reached, swapped⟩ := (Option.any_eq_true _ _).mp runs
  cases phase with
  | returned result =>
    rw [ReindexPhase.isSwappedTo, Bool.and_eq_true] at swapped
    refine ⟨after, result, reached, of_decide_eq_true swapped.2, ?_⟩
    exact (reindex_all_or_nothing refreshed_loadedElasticsearch reached).2 result rfl swapped.1
  | _ => cases swapped

end MessageManagement
