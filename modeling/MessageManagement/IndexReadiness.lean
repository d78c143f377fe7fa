/-
This file models `onModuleInit` of the index manager and the alias checks of the
Elasticsearch health indicator, next to any number of bootstraps and reindexes.

Late updates may leave two indices behind the read alias, but never behind the
write alias: Elasticsearch refuses a second write index. The invariant is that
the one index the writes go to is among those that are searched. It holds from
the moment the aliases are bound, which a bootstrap that is done and a check that
passed both witness, and no later step undoes it.
-/

import MessageManagement.Bootstrap
import MessageManagement.RuntimeConfig

namespace MessageManagement

open SearchCluster

variable {Number : Type}

/-! ### Health checks and startup -/

/-- What terminus is told of Elasticsearch: a `HealthCheckError` carries the details that are
`down`. -/
inductive ElasticsearchHealth
  | up (aliasName : JsString)
  | down (aliasName error : JsString)
  deriving DecidableEq

/-- `checkAlias`; the ping and the lookup are answered, or fail with a message. The cluster is the
one that the lookup finds. -/
def checkAlias (elasticsearch : Elasticsearch Number) (ping lookup : Except JsString Unit)
    (aliasName : JsString) : ElasticsearchHealth :=
  match ping, lookup with
  | .error message, _ => .down aliasName message
  | .ok (), .error message => .down aliasName message
  | .ok (), .ok () =>
    if existsAlias elasticsearch aliasName then .up aliasName
    else .down aliasName (jsString "Alias " ++ aliasName ++ jsString " does not exist")

def isReadReady (elasticsearch : Elasticsearch Number) (ping lookup : Except JsString Unit) :
    ElasticsearchHealth :=
  checkAlias elasticsearch ping lookup MESSAGES_READ_ALIAS

def isWriteReady (elasticsearch : Elasticsearch Number) (ping lookup : Except JsString Unit) :
    ElasticsearchHealth :=
  checkAlias elasticsearch ping lookup MESSAGES_WRITE_ALIAS

/-- What `onModuleInit` settles to; nothing while its bootstrap goes on. The API only logs that
its bootstrap failed. -/
def onModuleInit (runtime : MessageManagementRuntime) :
    BootstrapPhase → Option (Except JsString Unit)
  | .done => some (.ok ())
  | .failed message => some (if runtime ≠ .api then .error message else .ok ())
  | _ => none

theorem existsAlias_of_up {elasticsearch : Elasticsearch Number}
    {ping lookup : Except JsString Unit} {aliasName : JsString}
    (passed : checkAlias elasticsearch ping lookup aliasName = .up aliasName) :
    existsAlias elasticsearch aliasName = true := by
  cases ping with
  | error message => cases passed
  | ok answered =>
    cases lookup with
    | error message => cases passed
    | ok answered =>
      by_contra missing
      unfold checkAlias at passed
      dsimp only at passed
      rw [if_neg missing] at passed
      cases passed

theorem checkAlias_of_existsAlias {elasticsearch : Elasticsearch Number} {aliasName : JsString}
    (bound : existsAlias elasticsearch aliasName = true) :
    checkAlias elasticsearch (.ok ()) (.ok ()) aliasName = .up aliasName :=
  if_pos bound

/-- Outside the API only a bootstrap that is done lets the module start. -/
theorem done_of_onModuleInit {runtime : MessageManagementRuntime} {phase : BootstrapPhase}
    (worker : runtime ≠ .api) (started : onModuleInit runtime phase = some (.ok ())) :
    phase = .done := by
  cases phase with
  | done => rfl
  | failed message =>
    rw [onModuleInit, if_pos worker, Option.some_inj] at started
    cases started
  | _ => cases started

/-! ### The write index is searched -/

/-- The write alias has one index, which is among those of the read alias. -/
structure Covered (elasticsearch : Elasticsearch Number) (target : JsString) : Prop where
  write : elasticsearch.aliasEntries MESSAGES_WRITE_ALIAS =
    [⟨MESSAGES_WRITE_ALIAS, target, some true⟩]
  read : target ∈ elasticsearch.aliasIndices MESSAGES_READ_ALIAS

theorem BoundTo.covered {elasticsearch : Elasticsearch Number} {index : JsString}
    (bound : BoundTo elasticsearch index) : Covered elasticsearch index := by
  refine ⟨bound.write, ?_⟩
  rw [bound.aliasIndices.1]
  exact List.mem_cons_self

theorem Covered.of_aliases {elasticsearch next : Elasticsearch Number} {target : JsString}
    (covered : Covered elasticsearch target)
    (same : ∀ name, next.aliasEntries name = elasticsearch.aliasEntries name) :
    Covered next target := by
  refine ⟨(same _).trans covered.write, ?_⟩
  rw [Cluster.aliasIndices, same]
  exact covered.read

section Updates

variable {passesOver : Bool} {elasticsearch next : Elasticsearch Number} {target : JsString}

/-- A bootstrap moves no write, however late its update comes. -/
theorem Covered.bootstrap {readAliasExists writeAliasExists : Bool}
    (covered : Covered elasticsearch target)
    (applied : elasticsearch.guardedUpdate passesOver
      (bootstrapActions readAliasExists writeAliasExists) = some next) : Covered next target := by
  obtain ⟨nextRead, nextWrite, _⟩ := bootstrap_aliasEntries applied
  have guarded := (Cluster.guardedUpdate_aliasEntries applied MESSAGES_WRITE_ALIAS).2
  rw [covered.write] at nextWrite
  refine ⟨?_, ?_⟩
  · cases writeAliasExists with
    | true => exact nextWrite
    | false =>
      rw [if_neg Bool.false_ne_true] at nextWrite
      by_cases same : target = MESSAGES_PHYSICAL_INDEX
      · rw [nextWrite, filter_index_eq _ same, same]
        rfl
      · rw [aliasEntries_added _ same nextWrite] at guarded
        exact absurd (show 2 ≤ 1 from guarded) (by decide)
  · have listed := covered.read
    rw [Cluster.aliasIndices, nextRead]
    cases readAliasExists with
    | true => exact listed
    | false =>
      rw [if_neg Bool.false_ne_true, List.map_append, List.mem_append]
      by_cases same : target = MESSAGES_PHYSICAL_INDEX
      · exact Or.inr (same ▸ List.mem_cons_self)
      · obtain ⟨entry, member, rfl⟩ := List.mem_map.mp listed
        exact Or.inl (List.mem_map_of_mem (List.mem_filter.mpr ⟨member, decide_eq_true same⟩))

/-- A swap that is not refused moves the writes to its target, and the searches cover that too. -/
theorem Covered.swap {sourceIndices previousWriteIndices : List JsString}
    {targetIndex : JsString} (covered : Covered elasticsearch target)
    (applied : elasticsearch.guardedUpdate passesOver
      (buildAliasSwapActions sourceIndices previousWriteIndices targetIndex) = some next) :
    Covered next targetIndex := by
  obtain ⟨read, write⟩ := swap_aliasEntries applied
  have guarded := (Cluster.guardedUpdate_aliasEntries applied MESSAGES_WRITE_ALIAS).2
  refine ⟨?_, ?_⟩
  · rw [covered.write] at write
    have leaves : Leaves target targetIndex previousWriteIndices := by
      by_contra stays
      rw [write, filter_of_not_leaves stays] at guarded
      exact absurd (show 2 ≤ 1 from guarded) (by decide)
    rw [write, filter_of_leaves leaves]
    rfl
  · rw [Cluster.aliasIndices, read, List.map_append, List.mem_append]
    exact Or.inr List.mem_cons_self

end Updates

/-! ### Bootstraps that are done -/

/-- A bootstrap that did not find the read alias goes on. -/
theorem afterExistsAliases_ne_done {readAliasExists writeAliasExists : Option Bool}
    (read : readAliasExists ≠ some true) :
    afterExistsAliases readAliasExists writeAliasExists ≠ .done := by
  cases readAliasExists with
  | none => exact fun same => by cases same
  | some readAliasExists =>
    cases readAliasExists with
    | true => exact absurd rfl read
    | false =>
      cases writeAliasExists with
      | none => exact fun same => by cases same
      | some writeAliasExists => cases writeAliasExists <;> exact fun same => by cases same

/-- While the read alias is not bound, no bootstrap ends but by an update. -/
theorem bootstrapStep_ne_done {passesOver : Bool} {elasticsearch next : Elasticsearch Number}
    {phase nextPhase : BootstrapPhase} {action : BootstrapAction}
    (unbound : elasticsearch.aliasEntries MESSAGES_READ_ALIAS = []) (sawNone : phase.SawNone)
    (moved : bootstrapStep passesOver elasticsearch phase action = some (next, nextPhase))
    (other : action ≠ .updateAliases) : nextPhase ≠ .done := by
  cases action with
  | indexExists =>
    unfold bootstrapStep at moved
    dsimp only at moved
    split at moved
    · rw [Option.some_inj, Prod.mk.injEq] at moved
      obtain ⟨rfl, rfl⟩ := moved
      split
      · exact fun same => by cases same
      · exact fun same => by cases same
    · cases moved
  | create =>
    unfold bootstrapStep at moved
    dsimp only at moved
    split at moved
    · split at moved
      · rw [Option.some_inj, Prod.mk.injEq] at moved
        obtain ⟨rfl, rfl⟩ := moved
        exact fun same => by cases same
      · obtain ⟨created, _, same⟩ := Option.map_eq_some_iff.mp moved
        rw [Prod.mk.injEq] at same
        obtain ⟨rfl, rfl⟩ := same
        exact fun same => by cases same
    · cases moved
  | existsReadAlias =>
    unfold bootstrapStep at moved
    dsimp only at moved
    split at moved
    · rw [Option.some_inj, Prod.mk.injEq] at moved
      obtain ⟨rfl, rfl⟩ := moved
      refine afterExistsAliases_ne_done ?_
      rw [existsAlias_of_unbound unbound]
      exact fun same => by cases same
    · cases moved
  | existsWriteAlias =>
    unfold bootstrapStep at moved
    dsimp only at moved
    split at moved
    · rw [Option.some_inj, Prod.mk.injEq] at moved
      obtain ⟨rfl, rfl⟩ := moved
      exact afterExistsAliases_ne_done sawNone.1
    · cases moved
  | updateAliases => exact absurd rfl other
  | fail message =>
    unfold bootstrapStep at moved
    dsimp only at moved
    split at moved
    · cases moved
    · cases moved
    · rw [Option.some_inj, Prod.mk.injEq] at moved
      obtain ⟨rfl, rfl⟩ := moved
      exact fun same => by cases same

/-! ### Runs -/

/-- Neither alias is bound and no bootstrap is done, or the write index is searched. -/
def AliasRuns.WritesSearched (state : AliasRuns Number) : Prop :=
  (Unbound state ∧ ∀ run, state.bootstraps run ≠ .done) ∨
    ∃ target, Covered state.elasticsearch target

section Runs

variable {passesOver : Bool} {inputs : Nat → EsReindexInput} {state next : AliasRuns Number}

/-- No step of any run takes the write index from the searches. -/
theorem Covered.step {target : JsString} {label : AliasLabel Number}
    (covered : Covered state.elasticsearch target)
    (moved : aliasRunsStep passesOver inputs state label = some next) :
    ∃ after, Covered next.elasticsearch after := by
  cases label with
  | bootstrap run action =>
    obtain ⟨⟨elasticsearch, phase⟩, stepped, rfl⟩ := Option.map_eq_some_iff.mp moved
    by_cases update : action = .updateAliases
    · subst update
      obtain ⟨readAliasExists, writeAliasExists, _, applied⟩ := bootstrapStep_update stepped
      exact ⟨target, covered.bootstrap applied⟩
    · exact ⟨target, covered.of_aliases (bootstrapStep_other stepped update).1⟩
  | reindex run action =>
    obtain ⟨⟨elasticsearch, phase⟩, stepped, rfl⟩ := Option.map_eq_some_iff.mp moved
    by_cases update : action = .updateAliases
    · subst update
      obtain ⟨plan, _, _, _, applied⟩ := guardedReindexStep_update stepped
      exact ⟨plan.targetIndex, covered.swap applied⟩
    · exact ⟨target, covered.of_aliases (guardedReindexStep_other stepped update).1⟩

theorem AliasRuns.WritesSearched.step {label : AliasLabel Number}
    (searched : state.WritesSearched)
    (moved : aliasRunsStep passesOver inputs state label = some next) : next.WritesSearched := by
  rcases searched with ⟨unbound, pending⟩ | ⟨target, covered⟩
  · cases label with
    | bootstrap run action =>
      rcases (unbound.bootstrap_step moved).1 with stillUnbound | ⟨index, bound⟩
      · refine Or.inl ⟨stillUnbound, ?_⟩
        obtain ⟨⟨elasticsearch, phase⟩, stepped, rfl⟩ := Option.map_eq_some_iff.mp moved
        have pendingAll :=
          @forall_update _ (fun phase : BootstrapPhase => phase ≠ .done) _ run phase pending
        refine pendingAll ?_
        by_cases update : action = .updateAliases
        · subst update
          -- an update binds the aliases, so it does not leave them unbound
          obtain ⟨readAliasExists, writeAliasExists, before, applied⟩ :=
            bootstrapStep_update stepped
          have saw := unbound.bootstraps run
          rw [before] at saw
          obtain ⟨rfl, rfl⟩ := saw
          have bound := (boundTo_bootstrap unbound.read unbound.write applied).1.read
          rw [show elasticsearch.aliasEntries MESSAGES_READ_ALIAS = [] from stillUnbound.read]
            at bound
          cases bound
        · exact bootstrapStep_ne_done unbound.read (unbound.bootstraps run) stepped update
      · exact Or.inr ⟨index, bound.covered⟩
    | reindex run action =>
      refine Or.inl ⟨unbound.reindex_step moved, ?_⟩
      obtain ⟨⟨elasticsearch, phase⟩, _, rfl⟩ := Option.map_eq_some_iff.mp moved
      exact pending
  · exact Or.inr (covered.step moved)

theorem AliasRuns.WritesSearched.start {elasticsearch : Elasticsearch Number}
    (read : elasticsearch.aliasIndices MESSAGES_READ_ALIAS = [])
    (write : elasticsearch.aliasIndices MESSAGES_WRITE_ALIAS = []) :
    (AliasRuns.start elasticsearch).WritesSearched := by
  refine Or.inl ⟨⟨List.map_eq_nil_iff.mp read, List.map_eq_nil_iff.mp write, fun _ => trivial,
    fun _ indices same => ?_⟩, fun _ same => ?_⟩
  · cases same
  · cases same

/-- The checks pass while Elasticsearch answers, and every document that is written is found from
the next refresh of its index on. -/
structure Serves (elasticsearch : Elasticsearch Number) : Prop where
  read : isReadReady elasticsearch (.ok ()) (.ok ()) = .up MESSAGES_READ_ALIAS
  write : isWriteReady elasticsearch (.ok ()) (.ok ()) = .up MESSAGES_WRITE_ALIAS
  searched : ∀ id document, ∃ target stored,
    elasticsearch.aliasIndices MESSAGES_WRITE_ALIAS = [target] ∧
    elasticsearch.index MESSAGES_WRITE_ALIAS id document = some stored ∧
    (stored.refresh target).Readable MESSAGES_READ_ALIAS id document

theorem existsAlias_of_mem {elasticsearch : Elasticsearch Number} {name index : JsString}
    (member : index ∈ elasticsearch.aliasIndices name) : existsAlias elasticsearch name = true := by
  rw [existsAlias, List.isEmpty_eq_false_iff.mpr (List.ne_nil_of_mem member)]
  rfl

theorem Covered.serves {elasticsearch : Elasticsearch Number} {target : JsString}
    (covered : Covered elasticsearch target) : Serves elasticsearch := by
  have only : elasticsearch.aliasIndices MESSAGES_WRITE_ALIAS = [target] := by
    rw [Cluster.aliasIndices, covered.write]
    rfl
  refine ⟨checkAlias_of_existsAlias (existsAlias_of_mem covered.read), ?_, ?_⟩
  · exact checkAlias_of_existsAlias (existsAlias_of_mem (only ▸ List.mem_cons_self))
  · intro id document
    obtain ⟨stored, isStored, readable⟩ := Cluster.readable_refresh_index
      (Cluster.writeTarget_single covered.write rfl) covered.read id document
    exact ⟨target, stored, only, isStored, readable⟩

/-- A bound alias and a bootstrap that is done both witness that the aliases serve. -/
theorem AliasRuns.WritesSearched.covered (searched : state.WritesSearched)
    (bound : existsAlias state.elasticsearch MESSAGES_READ_ALIAS = true ∨
      existsAlias state.elasticsearch MESSAGES_WRITE_ALIAS = true ∨
      ∃ run, state.bootstraps run = .done) : ∃ target, Covered state.elasticsearch target := by
  rcases searched with ⟨unbound, pending⟩ | covered
  · rcases bound with read | write | ⟨run, done⟩
    · rw [existsAlias_of_unbound unbound.read] at read
      cases read
    · rw [existsAlias_of_unbound unbound.write] at write
      cases write
    · exact absurd done (pending run)
  · exact covered

/-- Whatever bootstraps and reindexes do and in whatever order: a module that started outside the
API, and a check that passed, mean that the aliases serve, and from then on they always do. -/
theorem search_stays_ready {elasticsearch : Elasticsearch Number}
    {first second : List (AliasLabel Number)} {state later : AliasRuns Number}
    (read : elasticsearch.aliasIndices MESSAGES_READ_ALIAS = [])
    (write : elasticsearch.aliasIndices MESSAGES_WRITE_ALIAS = [])
    (reached : Transition.run (aliasRunsStep passesOver inputs) (.start elasticsearch) first =
      some state)
    (toLater : Transition.run (aliasRunsStep passesOver inputs) state second = some later) :
    (∀ run runtime, runtime ≠ .api →
        onModuleInit runtime (state.bootstraps run) = some (.ok ()) →
          Serves state.elasticsearch) ∧
      (∀ ping lookup,
        isReadReady state.elasticsearch ping lookup = .up MESSAGES_READ_ALIAS ∨
          isWriteReady state.elasticsearch ping lookup = .up MESSAGES_WRITE_ALIAS →
            Serves state.elasticsearch) ∧
      (Serves state.elasticsearch → Serves later.elasticsearch) := by
  have searched : state.WritesSearched := Transition.run_invariant
    (fun _ _ _ searched moved => searched.step moved) (.start read write) reached
  have ready : ∀ ping lookup,
      isReadReady state.elasticsearch ping lookup = .up MESSAGES_READ_ALIAS ∨
        isWriteReady state.elasticsearch ping lookup = .up MESSAGES_WRITE_ALIAS →
          ∃ target, Covered state.elasticsearch target := by
    intro ping lookup passed
    refine searched.covered ?_
    rcases passed with readPassed | writePassed
    · exact Or.inl (existsAlias_of_up readPassed)
    · exact Or.inr (Or.inl (existsAlias_of_up writePassed))
  refine ⟨fun run runtime worker started => ?_, fun ping lookup passed => ?_, fun serves => ?_⟩
  · obtain ⟨target, covered⟩ := searched.covered
      (Or.inr (Or.inr ⟨run, done_of_onModuleInit worker started⟩))
    exact covered.serves
  · obtain ⟨target, covered⟩ := ready ping lookup passed
    exact covered.serves
  · have kept : ∀ (state : AliasRuns Number) label next,
        (∃ target, Covered state.elasticsearch target) →
          aliasRunsStep passesOver inputs state label = some next →
            ∃ target, Covered next.elasticsearch target := by
      rintro state label next ⟨target, covered⟩ moved
      exact covered.step moved
    obtain ⟨target, covered⟩ := Transition.run_invariant kept (ready _ _ (Or.inl serves.read))
      toLater
    exact covered.serves

/-- The late update after a swap leaves two indices to be searched, and the aliases serve still. -/
theorem search_stays_ready_late : ∃ state later : AliasRuns Nat,
    Transition.run (aliasRunsStep false fun _ => exampleReindexInput) (.start emptyElasticsearch)
      (lateBootstrap.take 8) = some state ∧
    Transition.run (aliasRunsStep false fun _ => exampleReindexInput) state
      (lateBootstrap.drop 8) = some later ∧
    later.elasticsearch.aliasIndices MESSAGES_READ_ALIAS =
      [jsString "messages-v2", MESSAGES_PHYSICAL_INDEX] ∧
    onModuleInit .searchIndexer (state.bootstraps 1) = some (.ok ()) ∧
    Serves state.elasticsearch ∧ Serves later.elasticsearch := by
  have runs : (Transition.run (aliasRunsStep false fun _ => exampleReindexInput)
      (.start emptyElasticsearch) (lateBootstrap.take 8)).any (fun state =>
        (onModuleInit .searchIndexer (state.bootstraps 1)).any (fun answer => answer.isOk) &&
          (Transition.run (aliasRunsStep false fun _ => exampleReindexInput) state
            (lateBootstrap.drop 8)).any fun later =>
              decide (later.elasticsearch.aliasIndices MESSAGES_READ_ALIAS =
                [jsString "messages-v2", MESSAGES_PHYSICAL_INDEX])) = true := by
    decide +kernel
  obtain ⟨state, toState, holds⟩ := (Option.any_eq_true _ _).mp runs
  rw [Bool.and_eq_true] at holds
  obtain ⟨isStarted, runs⟩ := holds
  obtain ⟨later, toLater, two⟩ := (Option.any_eq_true _ _).mp runs
  have started : onModuleInit .searchIndexer (state.bootstraps 1) = some (.ok ()) := by
    obtain ⟨answer, settled, isOk⟩ := (Option.any_eq_true _ _).mp isStarted
    rw [settled]
    cases answer with
    | error message => cases isOk
    | ok settled => rfl
  obtain ⟨whenStarted, _, kept⟩ := search_stays_ready rfl rfl toState toLater
  have serves := whenStarted 1 .searchIndexer (by decide) started
  exact ⟨state, later, toState, toLater, of_decide_eq_true two, started, serves, kept serves⟩

end Runs

end MessageManagement
