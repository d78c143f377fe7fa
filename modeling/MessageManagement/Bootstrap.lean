/-
This file models `IndexManagerService.ensureMessagesIndex` next to `reindex`: any
number of runs of either, each request a step, in any order.

Both aliases are first bound together, and a swap moves them together. What may
part them is an update that rests on two lookups with a swap between them. A
bootstrap that found only `messages-read` missing adds it to `messages-v1`, and
Elasticsearch, which would refuse a second write index, takes a second index
behind the read alias. A swap planned with an older lookup of the read alias does
the same where removing an alias that is not there is passed over.
-/

import MessageManagement.Reindex

namespace MessageManagement

open SearchCluster

variable {Number : Type}

/-! ### Bootstraps -/

/-- Where `ensureMessagesIndex` is: each phase but the last two awaits the request it is named
after. The two alias lookups are awaited together. -/
inductive BootstrapPhase
  | indexExists
  | create
  | existsAliases (readAliasExists writeAliasExists : Option Bool)
  | updateAliases (readAliasExists writeAliasExists : Bool)
  | done
  | failed (message : JsString)

/-- The actions of `ensureAliases`. -/
def bootstrapActions (readAliasExists writeAliasExists : Bool) : List (AliasAction JsString) :=
  (if readAliasExists then [] else [.add MESSAGES_READ_ALIAS MESSAGES_PHYSICAL_INDEX none]) ++
    if writeAliasExists then []
    else [.add MESSAGES_WRITE_ALIAS MESSAGES_PHYSICAL_INDEX (some true)]

/-- The service goes on once both lookups are answered. -/
def afterExistsAliases : Option Bool → Option Bool → BootstrapPhase
  | some readAliasExists, some writeAliasExists =>
    if (bootstrapActions readAliasExists writeAliasExists).isEmpty then .done
    else .updateAliases readAliasExists writeAliasExists
  | readAliasExists, writeAliasExists => .existsAliases readAliasExists writeAliasExists

/-- `fail` fails the request that is awaited, the others answer it. -/
inductive BootstrapAction
  | indexExists
  | create
  | existsReadAlias
  | existsWriteAlias
  | updateAliases
  | fail (message : JsString)

def existsAlias (elasticsearch : Elasticsearch Number) (name : JsString) : Bool :=
  !(elasticsearch.aliasIndices name).isEmpty

/-- One request of `ensureMessagesIndex`. An index that exists already is no failure of `create`;
`passesOver` says whether Elasticsearch passes over removing an alias that is not there. -/
def bootstrapStep (passesOver : Bool) (elasticsearch : Elasticsearch Number)
    (phase : BootstrapPhase) : BootstrapAction → Option (Elasticsearch Number × BootstrapPhase)
  | .indexExists =>
    match phase with
    | .indexExists =>
      some (elasticsearch, if (elasticsearch.resolve MESSAGES_PHYSICAL_INDEX).isEmpty then .create
        else .existsAliases none none)
    | _ => none
  | .create =>
    match phase with
    | .create =>
      if (elasticsearch.indices MESSAGES_PHYSICAL_INDEX).isSome then
        some (elasticsearch, .existsAliases none none)
      else (elasticsearch.create MESSAGES_PHYSICAL_INDEX).map (·, .existsAliases none none)
    | _ => none
  | .existsReadAlias =>
    match phase with
    | .existsAliases none writeAliasExists =>
      some (elasticsearch,
        afterExistsAliases (some (existsAlias elasticsearch MESSAGES_READ_ALIAS)) writeAliasExists)
    | _ => none
  | .existsWriteAlias =>
    match phase with
    | .existsAliases readAliasExists none =>
      some (elasticsearch,
        afterExistsAliases readAliasExists (some (existsAlias elasticsearch MESSAGES_WRITE_ALIAS)))
    | _ => none
  | .updateAliases =>
    match phase with
    | .updateAliases readAliasExists writeAliasExists =>
      (elasticsearch.guardedUpdate passesOver
        (bootstrapActions readAliasExists writeAliasExists)).map (·, .done)
    | _ => none
  | .fail message =>
    match phase with
    | .done => none
    | .failed _ => none
    | _ => some (elasticsearch, .failed message)

/-! ### Bootstraps and reindexes -/

/-- One request of `reindex`, or what search indexers do meanwhile. Only the swap is not that of
`reindexStep`: here Elasticsearch guards it. -/
def guardedReindexStep (passesOver : Bool) (input : EsReindexInput)
    (elasticsearch : Elasticsearch Number) (phase : ReindexPhase Number)
    (action : ReindexAction Number) : Option (Elasticsearch Number × ReindexPhase Number) :=
  match action, phase with
  | .updateAliases, .updateAliases plan sourceCount targetCount =>
    (elasticsearch.guardedUpdate passesOver (buildAliasSwapActions plan.sourceIndices
      plan.previousWriteIndices plan.targetIndex)).map
        (·, .returned (plan.swapped sourceCount targetCount))
  | .updateAliases, _ => none
  | action, phase =>
    (reindexStep input { ReindexState.start elasticsearch with phase } action).map fun next =>
      (next.elasticsearch, next.phase)

/-- The runs, each with a number of its own; a run that has not begun is in its first phase. -/
structure AliasRuns (Number : Type) where
  elasticsearch : Elasticsearch Number
  bootstraps : Nat → BootstrapPhase
  reindexes : Nat → ReindexPhase Number

def AliasRuns.start (elasticsearch : Elasticsearch Number) : AliasRuns Number where
  elasticsearch
  bootstraps _ := .indexExists
  reindexes _ := .getAliases none none

inductive AliasLabel (Number : Type)
  | bootstrap (run : Nat) (action : BootstrapAction)
  | reindex (run : Nat) (action : ReindexAction Number)

def aliasRunsStep (passesOver : Bool) (inputs : Nat → EsReindexInput) (state : AliasRuns Number) :
    AliasLabel Number → Option (AliasRuns Number)
  | .bootstrap run action =>
    (bootstrapStep passesOver state.elasticsearch (state.bootstraps run) action).map
      fun (elasticsearch, phase) =>
        { state with elasticsearch, bootstraps := Function.update state.bootstraps run phase }
  | .reindex run action =>
    (guardedReindexStep passesOver (inputs run) state.elasticsearch (state.reindexes run)
      action).map fun (elasticsearch, phase) =>
        { state with elasticsearch, reindexes := Function.update state.reindexes run phase }

/-! ### What the updates leave -/

/-- The aliases are at this index, which takes the writes. -/
structure BoundTo (elasticsearch : Elasticsearch Number) (index : JsString) : Prop where
  read : elasticsearch.aliasEntries MESSAGES_READ_ALIAS = [⟨MESSAGES_READ_ALIAS, index, none⟩]
  write : elasticsearch.aliasEntries MESSAGES_WRITE_ALIAS =
    [⟨MESSAGES_WRITE_ALIAS, index, some true⟩]

theorem BoundTo.of_aliases {elasticsearch next : Elasticsearch Number} {index : JsString}
    (bound : BoundTo elasticsearch index)
    (same : ∀ name, next.aliasEntries name = elasticsearch.aliasEntries name) :
    BoundTo next index :=
  ⟨(same _).trans bound.read, (same _).trans bound.write⟩

theorem readAlias_ne_writeAlias : MESSAGES_READ_ALIAS ≠ MESSAGES_WRITE_ALIAS := by decide

section Updates

variable {passesOver : Bool} {elasticsearch next : Elasticsearch Number}

/-- What an update of a bootstrap leaves behind the two aliases, and behind any other. -/
theorem bootstrap_aliasEntries {readAliasExists writeAliasExists : Bool}
    (applied : elasticsearch.guardedUpdate passesOver
      (bootstrapActions readAliasExists writeAliasExists) = some next) :
    next.aliasEntries MESSAGES_READ_ALIAS =
        (if readAliasExists then elasticsearch.aliasEntries MESSAGES_READ_ALIAS
        else ((elasticsearch.aliasEntries MESSAGES_READ_ALIAS).filter fun entry =>
          entry.index ≠ MESSAGES_PHYSICAL_INDEX) ++
            [⟨MESSAGES_READ_ALIAS, MESSAGES_PHYSICAL_INDEX, none⟩]) ∧
      next.aliasEntries MESSAGES_WRITE_ALIAS =
        (if writeAliasExists then elasticsearch.aliasEntries MESSAGES_WRITE_ALIAS
        else ((elasticsearch.aliasEntries MESSAGES_WRITE_ALIAS).filter fun entry =>
          entry.index ≠ MESSAGES_PHYSICAL_INDEX) ++
            [⟨MESSAGES_WRITE_ALIAS, MESSAGES_PHYSICAL_INDEX, some true⟩]) ∧
      ∀ name, name ≠ MESSAGES_READ_ALIAS → name ≠ MESSAGES_WRITE_ALIAS →
        next.aliasEntries name = elasticsearch.aliasEntries name := by
  refine ⟨?_, ?_, fun name notRead notWrite => ?_⟩
  · rw [(Cluster.guardedUpdate_aliasEntries applied _).1]
    cases readAliasExists <;> cases writeAliasExists <;> rfl
  · rw [(Cluster.guardedUpdate_aliasEntries applied _).1]
    cases readAliasExists <;> cases writeAliasExists <;> rfl
  · rw [(Cluster.guardedUpdate_aliasEntries applied name).1]
    have read : ∀ entries : List (AliasEntry JsString), Cluster.entriesAfter name entries
        (.add MESSAGES_READ_ALIAS MESSAGES_PHYSICAL_INDEX none) = entries := fun entries =>
      if_neg notRead.symm
    have write : ∀ entries : List (AliasEntry JsString), Cluster.entriesAfter name entries
        (.add MESSAGES_WRITE_ALIAS MESSAGES_PHYSICAL_INDEX (some true)) = entries := fun entries =>
      if_neg notWrite.symm
    cases readAliasExists <;> cases writeAliasExists <;>
      simp only [bootstrapActions, if_true, Bool.false_eq_true, if_false, List.nil_append,
        List.append_nil, List.cons_append, List.foldl_cons, List.foldl_nil, read, write]

/-- What a swap leaves behind the two aliases. -/
theorem swap_aliasEntries {sourceIndices previousWriteIndices : List JsString}
    {targetIndex : JsString}
    (applied : elasticsearch.guardedUpdate passesOver
      (buildAliasSwapActions sourceIndices previousWriteIndices targetIndex) = some next) :
    next.aliasEntries MESSAGES_READ_ALIAS =
        (((elasticsearch.aliasEntries MESSAGES_READ_ALIAS).filter fun entry =>
          entry.index ∉ sourceIndices).filter fun entry => entry.index ≠ targetIndex) ++
            [⟨MESSAGES_READ_ALIAS, targetIndex, none⟩] ∧
      next.aliasEntries MESSAGES_WRITE_ALIAS =
        (((elasticsearch.aliasEntries MESSAGES_WRITE_ALIAS).filter fun entry =>
          entry.index ∉ previousWriteIndices).filter fun entry => entry.index ≠ targetIndex) ++
            [⟨MESSAGES_WRITE_ALIAS, targetIndex, some true⟩] := by
  have other := readAlias_ne_writeAlias
  constructor
  · rw [(Cluster.guardedUpdate_aliasEntries applied _).1, buildAliasSwapActions, List.foldl_append,
      List.foldl_append, Cluster.foldl_entriesAfter_remove, Cluster.foldl_entriesAfter_remove,
      if_pos rfl, if_neg other.symm, List.foldl_cons, List.foldl_cons, List.foldl_nil,
      Cluster.entriesAfter, Cluster.entriesAfter, if_pos rfl, if_neg other.symm]
    refine congrArg (· ++ _) (congrArg (List.filter _) (List.filter_congr fun entry _ => ?_))
    exact decide_eq_decide.mpr Iff.rfl
  · rw [(Cluster.guardedUpdate_aliasEntries applied _).1, buildAliasSwapActions, List.foldl_append,
      List.foldl_append, Cluster.foldl_entriesAfter_remove, Cluster.foldl_entriesAfter_remove,
      if_pos rfl, if_neg other, List.foldl_cons, List.foldl_cons, List.foldl_nil,
      Cluster.entriesAfter, Cluster.entriesAfter, if_pos rfl, if_neg other]
    refine congrArg (· ++ _) (congrArg (List.filter _) (List.filter_congr fun entry _ => ?_))
    exact decide_eq_decide.mpr Iff.rfl

/-- Another index behind an alias of one index. -/
theorem aliasEntries_added {cluster : Elasticsearch Number} {name : JsString}
    {entry added : AliasEntry JsString} (index : JsString) (other : entry.index ≠ index)
    (left : cluster.aliasEntries name =
      ([entry].filter fun entry => entry.index ≠ index) ++ [added]) :
    cluster.aliasEntries name = [entry, added] := by
  have kept : ([entry].filter fun entry => entry.index ≠ index) = [entry] :=
    List.filter_cons_of_pos (decide_eq_true other)
  rw [left, kept]
  rfl

theorem filter_index_eq {entry : AliasEntry JsString} (index : JsString)
    (same : entry.index = index) :
    ([entry].filter fun entry => entry.index ≠ index) = [] :=
  List.filter_cons_of_neg (mt of_decide_eq_true (not_not.mpr same))

/-- On bound aliases a bootstrap leaves everything as it is, if the read alias is still at
`messages-v1` where only that was found missing. -/
theorem BoundTo.bootstrap {index : JsString} {readAliasExists writeAliasExists : Bool}
    (bound : BoundTo elasticsearch index)
    (unmoved : readAliasExists = false → writeAliasExists = true → index = MESSAGES_PHYSICAL_INDEX)
    (applied : elasticsearch.guardedUpdate passesOver
      (bootstrapActions readAliasExists writeAliasExists) = some next) (name : JsString) :
    next.aliasEntries name = elasticsearch.aliasEntries name := by
  obtain ⟨read, write, others⟩ := bootstrap_aliasEntries applied
  have guarded := (Cluster.guardedUpdate_aliasEntries applied MESSAGES_WRITE_ALIAS).2
  rw [bound.read] at read
  rw [bound.write] at write
  have physical : writeAliasExists = false → index = MESSAGES_PHYSICAL_INDEX := by
    intro missing
    by_contra moved
    rw [missing, if_neg Bool.false_ne_true] at write
    rw [aliasEntries_added _ moved write] at guarded
    exact absurd (show 2 ≤ 1 from guarded) (by decide)
  have unchangedRead : next.aliasEntries MESSAGES_READ_ALIAS =
      elasticsearch.aliasEntries MESSAGES_READ_ALIAS := by
    cases readAliasExists with
    | true => exact read.trans bound.read.symm
    | false =>
      have same : index = MESSAGES_PHYSICAL_INDEX := by
        cases writeAliasExists with
        | true => exact unmoved rfl rfl
        | false => exact physical rfl
      rw [read, bound.read, if_neg Bool.false_ne_true, filter_index_eq _ same, same]
      rfl
  have unchangedWrite : next.aliasEntries MESSAGES_WRITE_ALIAS =
      elasticsearch.aliasEntries MESSAGES_WRITE_ALIAS := by
    cases writeAliasExists with
    | true => exact write.trans bound.write.symm
    | false =>
      rw [write, bound.write, if_neg Bool.false_ne_true, filter_index_eq _ (physical rfl),
        physical rfl]
      rfl
  by_cases isRead : name = MESSAGES_READ_ALIAS
  · rw [isRead, unchangedRead]
  · by_cases isWrite : name = MESSAGES_WRITE_ALIAS
    · rw [isWrite, unchangedWrite]
    · exact others name isRead isWrite

/-- Otherwise it puts a second index behind the read alias. -/
theorem BoundTo.bootstrap_parts {index : JsString} (bound : BoundTo elasticsearch index)
    (moved : index ≠ MESSAGES_PHYSICAL_INDEX)
    (applied : elasticsearch.guardedUpdate passesOver (bootstrapActions false true) = some next) :
    next.aliasIndices MESSAGES_READ_ALIAS = [index, MESSAGES_PHYSICAL_INDEX] := by
  have read := (bootstrap_aliasEntries applied).1
  rw [bound.read, if_neg Bool.false_ne_true] at read
  rw [Cluster.aliasIndices, aliasEntries_added _ moved read]
  rfl

/-- On missing aliases a bootstrap that found both missing binds them together. -/
theorem boundTo_bootstrap (read : elasticsearch.aliasEntries MESSAGES_READ_ALIAS = [])
    (write : elasticsearch.aliasEntries MESSAGES_WRITE_ALIAS = [])
    (applied : elasticsearch.guardedUpdate passesOver (bootstrapActions false false) = some next) :
    BoundTo next MESSAGES_PHYSICAL_INDEX ∧ ∀ name,
      next.aliasEntries name ≠ elasticsearch.aliasEntries name →
        elasticsearch.aliasEntries name = [] := by
  obtain ⟨nextRead, nextWrite, others⟩ := bootstrap_aliasEntries applied
  rw [read] at nextRead
  rw [write] at nextWrite
  refine ⟨⟨nextRead, nextWrite⟩, fun name changed => ?_⟩
  by_cases isRead : name = MESSAGES_READ_ALIAS
  · rw [isRead, read]
  · by_cases isWrite : name = MESSAGES_WRITE_ALIAS
    · rw [isWrite, write]
    · exact absurd (others name isRead isWrite) changed

/-- A swap removes an alias from its index, or the target is that index already. -/
def Leaves (index targetIndex : JsString) (removed : List JsString) : Prop :=
  index ∈ removed ∨ index = targetIndex

theorem filter_of_leaves {entry : AliasEntry JsString} {targetIndex : JsString}
    {removed : List JsString} (leaves : Leaves entry.index targetIndex removed) :
    (([entry].filter fun entry => entry.index ∉ removed).filter fun entry =>
      entry.index ≠ targetIndex) = [] := by
  rw [List.filter_filter]
  refine List.filter_cons_of_neg ?_
  rw [Bool.and_eq_true, decide_eq_true_eq, decide_eq_true_eq, not_and_or, not_not, not_not]
  exact leaves.symm

theorem filter_of_not_leaves {entry : AliasEntry JsString} {targetIndex : JsString}
    {removed : List JsString} (stays : ¬ Leaves entry.index targetIndex removed) :
    (([entry].filter fun entry => entry.index ∉ removed).filter fun entry =>
      entry.index ≠ targetIndex) = [entry] := by
  rw [Leaves, not_or] at stays
  rw [List.filter_filter]
  refine List.filter_cons_of_pos ?_
  rw [Bool.and_eq_true, decide_eq_true_eq, decide_eq_true_eq]
  exact stays.symm

section Swap

variable {index targetIndex : JsString} {sourceIndices previousWriteIndices : List JsString}

/-- A swap that is not refused moves the write alias. -/
theorem BoundTo.swap_leaves (bound : BoundTo elasticsearch index)
    (applied : elasticsearch.guardedUpdate passesOver
      (buildAliasSwapActions sourceIndices previousWriteIndices targetIndex) = some next) :
    Leaves index targetIndex previousWriteIndices := by
  by_contra stays
  have guarded := (Cluster.guardedUpdate_aliasEntries applied MESSAGES_WRITE_ALIAS).2
  rw [(swap_aliasEntries applied).2, bound.write, filter_of_not_leaves stays] at guarded
  exact absurd (show 2 ≤ 1 from guarded) (by decide)

/-- It moves both aliases to the target, if it moves the read alias too. -/
theorem BoundTo.swap (bound : BoundTo elasticsearch index)
    (together : Leaves index targetIndex previousWriteIndices →
      Leaves index targetIndex sourceIndices)
    (applied : elasticsearch.guardedUpdate passesOver
      (buildAliasSwapActions sourceIndices previousWriteIndices targetIndex) = some next) :
    BoundTo next targetIndex := by
  have leaves := bound.swap_leaves applied
  obtain ⟨read, write⟩ := swap_aliasEntries applied
  rw [bound.read, filter_of_leaves (together leaves)] at read
  rw [bound.write, filter_of_leaves leaves] at write
  exact ⟨read, write⟩

/-- Otherwise it leaves a second index behind the read alias. -/
theorem BoundTo.swap_parts (bound : BoundTo elasticsearch index)
    (stays : ¬ Leaves index targetIndex sourceIndices)
    (applied : elasticsearch.guardedUpdate passesOver
      (buildAliasSwapActions sourceIndices previousWriteIndices targetIndex) = some next) :
    next.aliasIndices MESSAGES_READ_ALIAS = [index, targetIndex] := by
  rw [Cluster.aliasIndices, (swap_aliasEntries applied).1, bound.read, filter_of_not_leaves stays]
  rfl

end Swap

end Updates

/-! ### Before the aliases are bound -/

/-- The lookups of a bootstrap found no alias yet. -/
def BootstrapPhase.SawNone : BootstrapPhase → Prop
  | .existsAliases readAliasExists writeAliasExists =>
    readAliasExists ≠ some true ∧ writeAliasExists ≠ some true
  | .updateAliases readAliasExists writeAliasExists =>
    readAliasExists = false ∧ writeAliasExists = false
  | _ => True

/-- The lookup of a reindex found no index behind the read alias yet, or it failed. -/
def ReindexPhase.SawNone : ReindexPhase Number → Prop
  | .getAliases sourceIndices _ => ∀ indices, sourceIndices = some indices → indices = []
  | .failed _ => True
  | _ => False

theorem sawNone_afterExistsAliases {readAliasExists writeAliasExists : Option Bool}
    (read : readAliasExists ≠ some true) (write : writeAliasExists ≠ some true) :
    (afterExistsAliases readAliasExists writeAliasExists).SawNone := by
  cases readAliasExists with
  | none => exact ⟨read, write⟩
  | some readAliasExists =>
    cases writeAliasExists with
    | none => exact ⟨read, write⟩
    | some writeAliasExists =>
      cases readAliasExists with
      | true => exact absurd rfl read
      | false =>
        cases writeAliasExists with
        | true => exact absurd rfl write
        | false => exact ⟨rfl, rfl⟩

theorem sawNone_afterGetAliases (input : EsReindexInput)
    {sourceIndices previousWriteIndices : Option (List JsString)}
    (read : ∀ indices, sourceIndices = some indices → indices = []) :
    (afterGetAliases input sourceIndices previousWriteIndices :
      ReindexPhase Number).SawNone := by
  cases sourceIndices with
  | none => exact nofun
  | some sourceIndices =>
    rw [read sourceIndices rfl]
    cases previousWriteIndices with
    | none => exact fun indices same => (Option.some.inj same).symm
    | some previousWriteIndices => exact trivial

/-- While neither alias is bound, every lookup finds that. -/
structure Unbound (state : AliasRuns Number) : Prop where
  read : state.elasticsearch.aliasEntries MESSAGES_READ_ALIAS = []
  write : state.elasticsearch.aliasEntries MESSAGES_WRITE_ALIAS = []
  bootstraps : ∀ run, (state.bootstraps run).SawNone
  reindexes : ∀ run, (state.reindexes run).SawNone

theorem existsAlias_of_unbound {elasticsearch : Elasticsearch Number} {name : JsString}
    (unbound : elasticsearch.aliasEntries name = []) : existsAlias elasticsearch name = false := by
  rw [existsAlias, Cluster.aliasIndices, unbound]
  rfl

theorem getAliasIndices_of_unbound {elasticsearch : Elasticsearch Number} {name : JsString}
    (unbound : elasticsearch.aliasEntries name = []) : getAliasIndices elasticsearch name = [] := by
  rw [getAliasIndices, Cluster.aliasIndices, unbound]
  rfl

/-- A request of a bootstrap other than its update changes no alias, and sees none where none is
bound. -/
theorem bootstrapStep_other {passesOver : Bool} {elasticsearch next : Elasticsearch Number}
    {phase nextPhase : BootstrapPhase} {action : BootstrapAction}
    (moved : bootstrapStep passesOver elasticsearch phase action = some (next, nextPhase))
    (other : action ≠ .updateAliases) :
    (∀ name, next.aliasEntries name = elasticsearch.aliasEntries name) ∧
      (elasticsearch.aliasEntries MESSAGES_READ_ALIAS = [] →
        elasticsearch.aliasEntries MESSAGES_WRITE_ALIAS = [] → phase.SawNone →
          nextPhase.SawNone) := by
  cases action with
  | indexExists =>
    unfold bootstrapStep at moved
    dsimp only at moved
    split at moved
    · rw [Option.some_inj, Prod.mk.injEq] at moved
      obtain ⟨rfl, rfl⟩ := moved
      refine ⟨fun _ => rfl, fun _ _ _ => ?_⟩
      split
      · exact trivial
      · exact ⟨(Option.some_ne_none true).symm, (Option.some_ne_none true).symm⟩
    · cases moved
  | create =>
    unfold bootstrapStep at moved
    dsimp only at moved
    split at moved
    · split at moved
      · rw [Option.some_inj, Prod.mk.injEq] at moved
        obtain ⟨rfl, rfl⟩ := moved
        exact ⟨fun _ => rfl,
          fun _ _ _ => ⟨(Option.some_ne_none true).symm, (Option.some_ne_none true).symm⟩⟩
      · obtain ⟨created, isCreated, same⟩ := Option.map_eq_some_iff.mp moved
        rw [Prod.mk.injEq] at same
        obtain ⟨rfl, rfl⟩ := same
        have aliases := (Cluster.create_eq_some isCreated).2.1
        refine ⟨fun name => ?_,
          fun _ _ _ => ⟨(Option.some_ne_none true).symm, (Option.some_ne_none true).symm⟩⟩
        rw [Cluster.aliasEntries, aliases, Cluster.aliasEntries]
    · cases moved
  | existsReadAlias =>
    unfold bootstrapStep at moved
    dsimp only at moved
    split at moved
    · rw [Option.some_inj, Prod.mk.injEq] at moved
      obtain ⟨rfl, rfl⟩ := moved
      refine ⟨fun _ => rfl, fun read _ saw => sawNone_afterExistsAliases ?_ saw.2⟩
      rw [existsAlias_of_unbound read]
      exact fun same => by cases same
    · cases moved
  | existsWriteAlias =>
    unfold bootstrapStep at moved
    dsimp only at moved
    split at moved
    · rw [Option.some_inj, Prod.mk.injEq] at moved
      obtain ⟨rfl, rfl⟩ := moved
      refine ⟨fun _ => rfl, fun _ write saw => sawNone_afterExistsAliases saw.1 ?_⟩
      rw [existsAlias_of_unbound write]
      exact fun same => by cases same
    · cases moved
  | updateAliases => exact absurd rfl other
  | fail message =>
    unfold bootstrapStep at moved
    dsimp only at moved
    split at moved
    · cases moved
    · cases moved
    · rw [Option.some_inj, Prod.mk.injEq] at moved
      obtain ⟨rfl, rfl⟩ := moved
      exact ⟨fun _ => rfl, fun _ _ _ => trivial⟩

/-- A request of a reindex other than its swap changes no alias, and neither does an `index`
request; where the read alias is not bound, the reindex sees that. -/
theorem reindexStep_other {input : EsReindexInput} {state next : ReindexState Number}
    {action : ReindexAction Number} (moved : reindexStep input state action = some next)
    (other : action ≠ .updateAliases) :
    next.elasticsearch.aliases = state.elasticsearch.aliases ∧
      (state.elasticsearch.aliasEntries MESSAGES_READ_ALIAS = [] → state.phase.SawNone →
        next.phase.SawNone) := by
  have past : ∀ {phase nextPhase : ReindexPhase Number}, state.phase = phase → ¬ phase.SawNone →
      state.elasticsearch.aliasEntries MESSAGES_READ_ALIAS = [] → state.phase.SawNone →
        nextPhase.SawNone := by
    intro phase nextPhase same never _ saw
    rw [same] at saw
    exact absurd saw never
  cases reindexStep_transition moved with
  | getReadAlias was =>
    refine ⟨rfl, fun read _ => sawNone_afterGetAliases input fun indices same => ?_⟩
    rw [← Option.some.inj same, getAliasIndices_of_unbound read]
  | getWriteAlias was =>
    refine ⟨rfl, fun _ saw => sawNone_afterGetAliases input ?_⟩
    rw [was] at saw
    exact saw
  | countSource was _ => exact ⟨rfl, past was id⟩
  | targetExists was => exact ⟨rfl, past was id⟩
  | create was created => exact ⟨(Cluster.create_eq_some created).2.1, past was id⟩
  | startReindex preferred was => exact ⟨rfl, past was id⟩
  | reindexFailed _ _ => exact ⟨rfl, fun _ _ => trivial⟩
  | finishReindex was => exact ⟨rfl, past was id⟩
  | countTarget was _ => exact ⟨rfl, past was id⟩
  | updateAliases _ _ => exact absurd rfl other
  | fail message _ => exact ⟨rfl, fun _ _ => trivial⟩
  | indexMessage document result _ indexed =>
    obtain ⟨elasticsearch, stored, rfl⟩ := Option.map_eq_some_iff.mp indexed
    obtain ⟨target, _, rfl⟩ := Option.map_eq_some_iff.mp stored
    split
    · exact ⟨rfl, fun _ saw => saw⟩
    · exact ⟨rfl, fun _ saw => saw⟩
  | notIndexed document result => exact ⟨rfl, fun _ saw => saw⟩
  | refresh name => exact ⟨rfl, fun _ saw => saw⟩

theorem guardedReindexStep_other {passesOver : Bool} {input : EsReindexInput}
    {elasticsearch next : Elasticsearch Number} {phase nextPhase : ReindexPhase Number}
    {action : ReindexAction Number}
    (moved : guardedReindexStep passesOver input elasticsearch phase action =
      some (next, nextPhase)) (other : action ≠ .updateAliases) :
    (∀ name, next.aliasEntries name = elasticsearch.aliasEntries name) ∧
      (elasticsearch.aliasEntries MESSAGES_READ_ALIAS = [] → phase.SawNone →
        nextPhase.SawNone) := by
  have plain : guardedReindexStep passesOver input elasticsearch phase action =
      (reindexStep input { ReindexState.start elasticsearch with phase } action).map fun next =>
        (next.elasticsearch, next.phase) := by
    cases action with
    | updateAliases => exact absurd rfl other
    | _ => rfl
  rw [plain] at moved
  obtain ⟨after, stepped, same⟩ := Option.map_eq_some_iff.mp moved
  rw [Prod.mk.injEq] at same
  obtain ⟨rfl, rfl⟩ := same
  obtain ⟨aliases, saw⟩ := reindexStep_other stepped other
  refine ⟨fun name => ?_, saw⟩
  rw [Cluster.aliasEntries, aliases, Cluster.aliasEntries]
  rfl

theorem bootstrapStep_update {passesOver : Bool} {elasticsearch next : Elasticsearch Number}
    {phase nextPhase : BootstrapPhase}
    (moved : bootstrapStep passesOver elasticsearch phase .updateAliases = some (next, nextPhase)) :
    ∃ readAliasExists writeAliasExists, phase = .updateAliases readAliasExists writeAliasExists ∧
      elasticsearch.guardedUpdate passesOver
        (bootstrapActions readAliasExists writeAliasExists) = some next := by
  cases phase with
  | updateAliases readAliasExists writeAliasExists =>
    obtain ⟨after, applied, same⟩ := Option.map_eq_some_iff.mp moved
    exact ⟨readAliasExists, writeAliasExists, rfl, (Prod.mk.inj same).1 ▸ applied⟩
  | _ => exact nomatch moved

theorem guardedReindexStep_update {passesOver : Bool} {input : EsReindexInput}
    {elasticsearch next : Elasticsearch Number} {phase nextPhase : ReindexPhase Number}
    (moved : guardedReindexStep passesOver input elasticsearch phase .updateAliases =
      some (next, nextPhase)) :
    ∃ plan sourceCount targetCount, phase = .updateAliases plan sourceCount targetCount ∧
      elasticsearch.guardedUpdate passesOver (buildAliasSwapActions plan.sourceIndices
        plan.previousWriteIndices plan.targetIndex) = some next := by
  cases phase with
  | updateAliases plan sourceCount targetCount =>
    obtain ⟨after, applied, same⟩ := Option.map_eq_some_iff.mp moved
    exact ⟨plan, sourceCount, targetCount, rfl, (Prod.mk.inj same).1 ▸ applied⟩
  | _ => exact nomatch moved

/-! ### Runs -/

section Runs

variable {passesOver : Bool} {inputs : Nat → EsReindexInput} {state next : AliasRuns Number}

/-- The condition on a step: an update of a bootstrap that found only the read alias missing finds
it nowhere but at `messages-v1`; a swap that moves the write alias moves the read alias too. -/
def AliasRuns.Unraced (state : AliasRuns Number) : AliasLabel Number → Prop
  | .bootstrap run .updateAliases =>
    state.bootstraps run = .updateAliases false true →
      ∀ index ∈ state.elasticsearch.aliasIndices MESSAGES_READ_ALIAS,
        index = MESSAGES_PHYSICAL_INDEX
  | .reindex run .updateAliases =>
    ∀ plan sourceCount targetCount,
      state.reindexes run = .updateAliases plan sourceCount targetCount →
        (∀ index ∈ state.elasticsearch.aliasIndices MESSAGES_WRITE_ALIAS,
          Leaves index plan.targetIndex plan.previousWriteIndices) →
        ∀ index ∈ state.elasticsearch.aliasIndices MESSAGES_READ_ALIAS,
          Leaves index plan.targetIndex plan.sourceIndices
  | _ => True

/-- A bootstrap changes only aliases that point at no index. -/
def AliasRuns.KeepsBound (passesOver : Bool) (inputs : Nat → EsReindexInput)
    (state : AliasRuns Number) (label : AliasLabel Number) : Prop :=
  ∀ run action next, label = .bootstrap run action →
    aliasRunsStep passesOver inputs state label = some next →
      ∀ name, next.elasticsearch.aliasEntries name ≠ state.elasticsearch.aliasEntries name →
        state.elasticsearch.aliasIndices name = []

/-- Both aliases resolve to exactly one index, the same for both. -/
def AliasRuns.Together (state : AliasRuns Number) : Prop :=
  ∃ index, state.elasticsearch.aliasIndices MESSAGES_READ_ALIAS = [index] ∧
    state.elasticsearch.aliasIndices MESSAGES_WRITE_ALIAS = [index]

/-- Neither alias is bound yet, or both are at one index. -/
def AliasRuns.Sound (state : AliasRuns Number) : Prop :=
  Unbound state ∨ ∃ index, BoundTo state.elasticsearch index

theorem BoundTo.aliasIndices {elasticsearch : Elasticsearch Number} {index : JsString}
    (bound : BoundTo elasticsearch index) :
    elasticsearch.aliasIndices MESSAGES_READ_ALIAS = [index] ∧
      elasticsearch.aliasIndices MESSAGES_WRITE_ALIAS = [index] := by
  rw [Cluster.aliasIndices, Cluster.aliasIndices, bound.read, bound.write]
  exact ⟨rfl, rfl⟩

theorem Unbound.of_aliases (unbound : Unbound state)
    (same : ∀ name, next.elasticsearch.aliasEntries name = state.elasticsearch.aliasEntries name)
    (bootstraps : ∀ run, (next.bootstraps run).SawNone)
    (reindexes : ∀ run, (next.reindexes run).SawNone) : Unbound next :=
  ⟨(same _).trans unbound.read, (same _).trans unbound.write, bootstraps, reindexes⟩

theorem forall_update {Phase : Type} {SawNone : Phase → Prop} {phases : Nat → Phase} {run : Nat}
    {phase : Phase} (all : ∀ run, SawNone (phases run)) (own : SawNone phase) (other : Nat) :
    SawNone (Function.update phases run phase other) := by
  by_cases same : other = run
  · rw [same, Function.update_self]
    exact own
  · rw [Function.update_of_ne same]
    exact all other

/-- On bound aliases a step of a bootstrap changes no alias. -/
theorem BoundTo.bootstrap_step {index : JsString} {run : Nat} {action : BootstrapAction}
    (bound : BoundTo state.elasticsearch index)
    (unraced : state.Unraced (.bootstrap run action))
    (moved : aliasRunsStep passesOver inputs state (.bootstrap run action) = some next)
    (name : JsString) :
    next.elasticsearch.aliasEntries name = state.elasticsearch.aliasEntries name := by
  obtain ⟨⟨elasticsearch, phase⟩, stepped, rfl⟩ := Option.map_eq_some_iff.mp moved
  by_cases update : action = .updateAliases
  · subst update
    obtain ⟨readAliasExists, writeAliasExists, before, applied⟩ := bootstrapStep_update stepped
    refine bound.bootstrap ?_ applied name
    rintro rfl rfl
    refine unraced before index ?_
    rw [bound.aliasIndices.1]
    exact List.mem_cons_self
  · exact (bootstrapStep_other stepped update).1 name

/-- On bound aliases a step of a reindex keeps them together. -/
theorem BoundTo.reindex_step {index : JsString} {run : Nat} {action : ReindexAction Number}
    (bound : BoundTo state.elasticsearch index) (unraced : state.Unraced (.reindex run action))
    (moved : aliasRunsStep passesOver inputs state (.reindex run action) = some next) :
    ∃ after, BoundTo next.elasticsearch after := by
  obtain ⟨⟨elasticsearch, phase⟩, stepped, rfl⟩ := Option.map_eq_some_iff.mp moved
  by_cases update : action = .updateAliases
  · subst update
    obtain ⟨plan, sourceCount, targetCount, before, applied⟩ := guardedReindexStep_update stepped
    obtain ⟨read, write⟩ := bound.aliasIndices
    refine ⟨plan.targetIndex, bound.swap (fun leaves => ?_) applied⟩
    refine unraced plan sourceCount targetCount before (fun other member => ?_) index ?_
    · rw [write, List.mem_singleton] at member
      exact member ▸ leaves
    · rw [read]
      exact List.mem_cons_self
  · exact ⟨index, bound.of_aliases (guardedReindexStep_other stepped update).1⟩

theorem BoundTo.step {index : JsString} {label : AliasLabel Number}
    (bound : BoundTo state.elasticsearch index) (unraced : state.Unraced label)
    (moved : aliasRunsStep passesOver inputs state label = some next) :
    ∃ after, BoundTo next.elasticsearch after := by
  cases label with
  | bootstrap run action =>
    exact ⟨index, bound.of_aliases (bound.bootstrap_step unraced moved)⟩
  | reindex run action => exact bound.reindex_step unraced moved

/-- Before the aliases are bound a step of a bootstrap binds none, or both. -/
theorem Unbound.bootstrap_step {run : Nat} {action : BootstrapAction} (unbound : Unbound state)
    (moved : aliasRunsStep passesOver inputs state (.bootstrap run action) = some next) :
    next.Sound ∧ ∀ name,
      next.elasticsearch.aliasEntries name ≠ state.elasticsearch.aliasEntries name →
        state.elasticsearch.aliasEntries name = [] := by
  obtain ⟨⟨elasticsearch, phase⟩, stepped, rfl⟩ := Option.map_eq_some_iff.mp moved
  by_cases update : action = .updateAliases
  · subst update
    obtain ⟨readAliasExists, writeAliasExists, before, applied⟩ := bootstrapStep_update stepped
    have saw := unbound.bootstraps run
    rw [before] at saw
    obtain ⟨rfl, rfl⟩ := saw
    obtain ⟨bound, changes⟩ := boundTo_bootstrap unbound.read unbound.write applied
    exact ⟨Or.inr ⟨_, bound⟩, changes⟩
  · obtain ⟨kept, saw⟩ := bootstrapStep_other stepped update
    refine ⟨Or.inl (unbound.of_aliases kept (forall_update unbound.bootstraps ?_)
      unbound.reindexes), fun name changed => absurd (kept name) changed⟩
    exact saw unbound.read unbound.write (unbound.bootstraps run)

theorem Unbound.reindex_step {run : Nat} {action : ReindexAction Number} (unbound : Unbound state)
    (moved : aliasRunsStep passesOver inputs state (.reindex run action) = some next) :
    Unbound next := by
  obtain ⟨⟨elasticsearch, phase⟩, stepped, rfl⟩ := Option.map_eq_some_iff.mp moved
  by_cases update : action = .updateAliases
  · subst update
    obtain ⟨plan, sourceCount, targetCount, before, applied⟩ := guardedReindexStep_update stepped
    have saw := unbound.reindexes run
    rw [before] at saw
    exact absurd saw id
  · obtain ⟨kept, saw⟩ := guardedReindexStep_other stepped update
    exact unbound.of_aliases kept unbound.bootstraps
      (forall_update unbound.reindexes (saw unbound.read (unbound.reindexes run)))

theorem AliasRuns.Sound.step {label : AliasLabel Number} (sound : state.Sound)
    (unraced : state.Unraced label)
    (moved : aliasRunsStep passesOver inputs state label = some next) : next.Sound := by
  rcases sound with unbound | ⟨index, bound⟩
  · cases label with
    | bootstrap run action => exact (unbound.bootstrap_step moved).1
    | reindex run action => exact Or.inl (unbound.reindex_step moved)
  · exact Or.inr (bound.step unraced moved)

theorem not_together {first second : JsString}
    (two : state.elasticsearch.aliasIndices MESSAGES_READ_ALIAS = [first, second]) :
    ¬ state.Together := by
  rintro ⟨index, single, _⟩
  rw [two] at single
  exact nomatch single

/-- A step that does not meet the condition parts the aliases. -/
theorem AliasRuns.Sound.parted {label : AliasLabel Number} (sound : state.Sound)
    (raced : ¬ state.Unraced label)
    (moved : aliasRunsStep passesOver inputs state label = some next) :
    (∃ index, BoundTo state.elasticsearch index) ∧ ¬ next.Together := by
  cases label with
  | bootstrap run action =>
    by_cases update : action = .updateAliases
    · subst update
      obtain ⟨⟨elasticsearch, phase⟩, stepped, rfl⟩ := Option.map_eq_some_iff.mp moved
      simp only [AliasRuns.Unraced, not_forall] at raced
      obtain ⟨before, index, member, elsewhere⟩ := raced
      obtain ⟨readAliasExists, writeAliasExists, phases, applied⟩ := bootstrapStep_update stepped
      rw [before, BootstrapPhase.updateAliases.injEq] at phases
      obtain ⟨rfl, rfl⟩ := phases
      rcases sound with unbound | ⟨only, bound⟩
      · rw [Cluster.aliasIndices, unbound.read] at member
        exact absurd member List.not_mem_nil
      · rw [bound.aliasIndices.1, List.mem_singleton] at member
        exact ⟨⟨only, bound⟩, not_together (bound.bootstrap_parts (member ▸ elsewhere) applied)⟩
    · cases action with
      | updateAliases => exact absurd rfl update
      | _ => exact absurd trivial raced
  | reindex run action =>
    by_cases update : action = .updateAliases
    · subst update
      obtain ⟨⟨elasticsearch, phase⟩, stepped, rfl⟩ := Option.map_eq_some_iff.mp moved
      simp only [AliasRuns.Unraced, not_forall] at raced
      obtain ⟨plan, sourceCount, targetCount, before, _, index, member, stays⟩ := raced
      obtain ⟨other, _, _, phases, applied⟩ := guardedReindexStep_update stepped
      rw [before, ReindexPhase.updateAliases.injEq] at phases
      obtain ⟨rfl, _, _⟩ := phases
      rcases sound with unbound | ⟨only, bound⟩
      · rw [Cluster.aliasIndices, unbound.read] at member
        exact absurd member List.not_mem_nil
      · rw [bound.aliasIndices.1, List.mem_singleton] at member
        exact ⟨⟨only, bound⟩, not_together (bound.swap_parts (member ▸ stays) applied)⟩
    · cases action with
      | updateAliases => exact absurd rfl update
      | _ => exact absurd trivial raced

theorem AliasRuns.Sound.start {elasticsearch : Elasticsearch Number}
    (read : elasticsearch.aliasIndices MESSAGES_READ_ALIAS = [])
    (write : elasticsearch.aliasIndices MESSAGES_WRITE_ALIAS = []) :
    (AliasRuns.start elasticsearch).Sound :=
  Or.inl ⟨List.map_eq_nil_iff.mp read, List.map_eq_nil_iff.mp write, fun _ => trivial,
    fun _ => nofun⟩

/-- No bootstrap undoes a swap in a run: each changes only aliases that point at no index, and once
both aliases are bound they resolve to one index, the same for both. -/
def SwapsKept (passesOver : Bool) (inputs : Nat → EsReindexInput) (start : AliasRuns Number)
    (labels : List (AliasLabel Number)) : Prop :=
  Transition.Along (aliasRunsStep passesOver inputs)
      (AliasRuns.KeepsBound passesOver inputs) start labels ∧
    ∀ first second third bound later, labels = first ++ second ++ third →
      Transition.run (aliasRunsStep passesOver inputs) start first = some bound →
      bound.elasticsearch.aliasIndices MESSAGES_READ_ALIAS ≠ [] →
      bound.elasticsearch.aliasIndices MESSAGES_WRITE_ALIAS ≠ [] →
      Transition.run (aliasRunsStep passesOver inputs) bound second = some later →
        later.Together

theorem AliasRuns.Sound.run {start final : AliasRuns Number} {labels : List (AliasLabel Number)}
    (sound : start.Sound)
    (unraced : Transition.Along (aliasRunsStep passesOver inputs) AliasRuns.Unraced start labels)
    (reached : Transition.run (aliasRunsStep passesOver inputs) start labels = some final) :
    final.Sound :=
  Transition.run_invariant_along (fun _ _ _ sound unraced moved => sound.step unraced moved) sound
    unraced reached

/-- If every update meets the condition, no swap is undone. -/
theorem swapsKept_of_unraced {start : AliasRuns Number} {labels : List (AliasLabel Number)}
    (sound : start.Sound)
    (unraced : Transition.Along (aliasRunsStep passesOver inputs) AliasRuns.Unraced start labels) :
    SwapsKept passesOver inputs start labels := by
  have step : ∀ (state : AliasRuns Number) label next, state.Sound → state.Unraced label →
      aliasRunsStep passesOver inputs state label = some next → next.Sound :=
    fun _ _ _ sound unraced moved => sound.step unraced moved
  refine ⟨?_, fun first second third bound later same toBound read write toLater => ?_⟩
  · refine Transition.along_of_invariant step (fun state label sound unraced => ?_) sound unraced
    rintro run action next rfl moved name changed
    rcases sound with unbound | ⟨index, bound⟩
    · rw [Cluster.aliasIndices, (unbound.bootstrap_step moved).2 name changed]
      rfl
    · exact absurd (bound.bootstrap_step unraced moved name) changed
  · rw [same, List.append_assoc, Transition.along_append toBound,
      Transition.along_append toLater] at unraced
    obtain ⟨before, after, _⟩ := unraced
    rcases sound.run before toBound with unbound | isBound
    · rw [Cluster.aliasIndices, unbound.read] at read
      exact absurd rfl read
    · have keeps : ∀ (state : AliasRuns Number) label next,
          (∃ index, BoundTo state.elasticsearch index) → state.Unraced label →
            aliasRunsStep passesOver inputs state label = some next →
              ∃ index, BoundTo next.elasticsearch index := by
        rintro state label next ⟨index, bound⟩ unraced moved
        exact bound.step unraced moved
      obtain ⟨index, stillBound⟩ := Transition.run_invariant_along keeps isBound after toLater
      exact ⟨index, stillBound.aliasIndices⟩

/-- If no swap is undone, every update met the condition. -/
theorem unraced_of_swapsKept {start final : AliasRuns Number} {labels : List (AliasLabel Number)}
    (sound : start.Sound)
    (reached : Transition.run (aliasRunsStep passesOver inputs) start labels = some final)
    (kept : SwapsKept passesOver inputs start labels) :
    Transition.Along (aliasRunsStep passesOver inputs) AliasRuns.Unraced start labels := by
  induction labels using List.reverseRecOn generalizing final with
  | nil => exact trivial
  | append_singleton earlier label inductionHypothesis =>
    obtain ⟨state, before, moved⟩ := Transition.run_concat_eq_some.mp reached
    obtain ⟨changes, together⟩ := kept
    have keptEarlier : SwapsKept passesOver inputs start earlier := by
      refine ⟨((Transition.along_append before).mp changes).1, ?_⟩
      intro first second third bound later same
      refine together first second (third ++ [label]) bound later ?_
      rw [same, List.append_assoc (first ++ second)]
    have unraced := inductionHypothesis before keptEarlier
    refine (Transition.along_append before).mpr ⟨unraced, ?_, fun _ _ => trivial⟩
    by_contra raced
    obtain ⟨⟨index, bound⟩, parted⟩ := (sound.run unraced before).parted raced moved
    obtain ⟨read, write⟩ := bound.aliasIndices
    refine parted (together earlier [label] [] state final ?_ before ?_ ?_ ?_)
    · rw [List.append_nil]
    · rw [read]
      exact List.cons_ne_nil _ _
    · rw [write]
      exact List.cons_ne_nil _ _
    · rw [Transition.run, moved]
      rfl

/-- In every run of bootstraps and reindexes that starts without the two aliases, no swap is undone
exactly if every update of the aliases meets the condition. -/
theorem swaps_kept_iff {passesOver : Bool} {inputs : Nat → EsReindexInput}
    {elasticsearch : Elasticsearch Number} {labels : List (AliasLabel Number)}
    {final : AliasRuns Number} (read : elasticsearch.aliasIndices MESSAGES_READ_ALIAS = [])
    (write : elasticsearch.aliasIndices MESSAGES_WRITE_ALIAS = [])
    (reached : Transition.run (aliasRunsStep passesOver inputs) (.start elasticsearch) labels =
      some final) :
    SwapsKept passesOver inputs (.start elasticsearch) labels ↔
      Transition.Along (aliasRunsStep passesOver inputs) AliasRuns.Unraced (.start elasticsearch)
        labels :=
  ⟨unraced_of_swapsKept (.start read write) reached, swapsKept_of_unraced (.start read write)⟩

end Runs

/-! ### Two runs -/

/-- Nothing is there yet. -/
def emptyElasticsearch : Elasticsearch Nat where
  indices _ := none
  aliases := []
  attached _ member := absurd member List.not_mem_nil
  distinct := List.nodup_nil

/-- A whole bootstrap of the first start. -/
def wholeBootstrap (run : Nat) (create : Bool) : List (AliasLabel Nat) :=
  let requests : List BootstrapAction := (.indexExists :: if create then [.create] else []) ++
    [.existsReadAlias, .existsWriteAlias, .updateAliases]
  requests.map (.bootstrap run)

/-- A whole reindex, which swaps. -/
def wholeReindex (run : Nat) : List (AliasLabel Nat) :=
  (reindexRequests [] []).map (.reindex run)

/-- The first instance looks up the read alias before the second one binds both, and the write
alias after it; its update is late, and comes after a swap. -/
def lateBootstrap : List (AliasLabel Nat) :=
  [.bootstrap 0 .indexExists, .bootstrap 0 .create, .bootstrap 0 .existsReadAlias] ++
    wholeBootstrap 1 false ++ [.bootstrap 0 .existsWriteAlias] ++ wholeReindex 0 ++
      [.bootstrap 0 .updateAliases]

/-- The late update puts a second index behind the read alias. -/
theorem late_bootstrap_parts_aliases :
    ∃ final, Transition.run (aliasRunsStep false fun _ => exampleReindexInput)
        (.start emptyElasticsearch) lateBootstrap = some final ∧
      ¬ SwapsKept false (fun _ => exampleReindexInput) (.start emptyElasticsearch)
        lateBootstrap := by
  have runs : (Transition.run (aliasRunsStep false fun _ => exampleReindexInput)
      (.start emptyElasticsearch) (lateBootstrap.take 8)).any (fun bound =>
        decide (bound.elasticsearch.aliasIndices MESSAGES_READ_ALIAS ≠ []) &&
          decide (bound.elasticsearch.aliasIndices MESSAGES_WRITE_ALIAS ≠ []) &&
          (Transition.run (aliasRunsStep false fun _ => exampleReindexInput) bound
            (lateBootstrap.drop 8)).any fun final =>
              decide (final.elasticsearch.aliasIndices MESSAGES_READ_ALIAS =
                [jsString "messages-v2", MESSAGES_PHYSICAL_INDEX])) = true := by
    decide +kernel
  obtain ⟨bound, toBound, holds⟩ := (Option.any_eq_true _ _).mp runs
  rw [Bool.and_eq_true, Bool.and_eq_true, decide_eq_true_eq, decide_eq_true_eq] at holds
  obtain ⟨⟨read, write⟩, runs⟩ := holds
  obtain ⟨final, toFinal, two⟩ := (Option.any_eq_true _ _).mp runs
  have whole : lateBootstrap = lateBootstrap.take 8 ++ lateBootstrap.drop 8 ++ [] := by
    rw [List.append_nil, List.take_append_drop]
  refine ⟨final, ?_, fun kept => ?_⟩
  · rw [whole, List.append_nil, Transition.run_append, toBound]
    exact toFinal
  · exact not_together (of_decide_eq_true two)
      (kept.2 _ _ _ bound final whole toBound read write toFinal)

/-- One bootstrap after the other, and then a swap. -/
theorem orderly_swap_kept_iff :
    ∃ final : AliasRuns Nat,
      Transition.run (aliasRunsStep true fun _ => exampleReindexInput) (.start emptyElasticsearch)
        (wholeBootstrap 0 true ++ wholeReindex 0) = some final ∧
      final.Together ∧
      (SwapsKept true (fun _ => exampleReindexInput) (.start emptyElasticsearch)
          (wholeBootstrap 0 true ++ wholeReindex 0) ↔
        Transition.Along (aliasRunsStep true fun _ => exampleReindexInput) AliasRuns.Unraced
          (.start emptyElasticsearch) (wholeBootstrap 0 true ++ wholeReindex 0)) := by
  have runs : (Transition.run (aliasRunsStep true fun _ => exampleReindexInput)
      (.start emptyElasticsearch) (wholeBootstrap 0 true ++ wholeReindex 0)).any (fun final =>
        decide (final.elasticsearch.aliasIndices MESSAGES_READ_ALIAS = [jsString "messages-v2"] ∧
          final.elasticsearch.aliasIndices MESSAGES_WRITE_ALIAS = [jsString "messages-v2"])) =
      true := by
    decide +kernel
  obtain ⟨final, reached, together⟩ := (Option.any_eq_true _ _).mp runs
  exact ⟨final, reached, ⟨_, of_decide_eq_true together⟩, swaps_kept_iff rfl rfl reached⟩

end MessageManagement
