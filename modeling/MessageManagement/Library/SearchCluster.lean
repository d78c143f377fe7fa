/-
This file is about a cluster of search indices behind aliases. A document stored
under an id is visible to searches from the next refresh on, a request addresses
one index or all indices of an alias, and a list of alias actions takes effect
as a whole.

What a search over several indices finds under an id that more than one of them
has is not fixed; the reader names the index it prefers for each id.
-/

import MessageManagement.Library.Collection

namespace SearchCluster

variable {Name Id Doc : Type}

/-! ### Indices -/

/-- The documents of an index: all that are stored, and those a search sees. -/
structure Index (Id Doc : Type) where
  stored : Collection Id Doc
  visible : Collection Id Doc

namespace Index

def empty : Index Id Doc where
  stored := .empty
  visible := .empty

def refresh (index : Index Id Doc) : Index Id Doc := { index with visible := index.stored }

/-- The number of visible documents. -/
def count (index : Index Id Doc) : Nat := index.visible.entries.length

variable [DecidableEq Id]

def put (index : Index Id Doc) (id : Id) (doc : Doc) : Index Id Doc :=
  { index with stored := index.stored.put id doc }

/-- Store a collection of documents, and refresh. -/
def load (index : Index Id Doc) (documents : Collection Id Doc) : Index Id Doc :=
  refresh { index with stored := documents.overlay index.stored }

end Index

/-! ### Clusters -/

structure AliasEntry (Name : Type) where
  aliasName : Name
  index : Name
  isWriteIndex : Option Bool

/-- The indices and the aliases; an alias is no index, and is attached to indices that exist, to
each only once. -/
structure Cluster (Name Id Doc : Type) where
  indices : Name → Option (Index Id Doc)
  aliases : List (AliasEntry Name)
  attached : ∀ entry ∈ aliases, indices entry.aliasName = none ∧ indices entry.index ≠ none
  distinct : (aliases.map fun entry => (entry.aliasName, entry.index)).Nodup

inductive AliasAction (Name : Type)
  | remove (aliasName index : Name)
  | add (aliasName index : Name) (isWriteIndex : Option Bool)

namespace Cluster

variable [DecidableEq Name]

def aliasEntries (cluster : Cluster Name Id Doc) (aliasName : Name) : List (AliasEntry Name) :=
  cluster.aliases.filter fun entry => entry.aliasName = aliasName

def aliasIndices (cluster : Cluster Name Id Doc) (aliasName : Name) : List Name :=
  (cluster.aliasEntries aliasName).map fun entry => entry.index

/-- The indices that a request addresses: the one of this name, or those of the alias. -/
def resolve (cluster : Cluster Name Id Doc) (name : Name) : List (Name × Index Id Doc) :=
  match cluster.indices name with
  | some index => [(name, index)]
  | none => (cluster.aliasIndices name).filterMap fun other =>
      (cluster.indices other).map fun index => (other, index)

/-- The index that a write to a name goes to: for an alias its write index, or its only index
unless that is marked not to be one. -/
def writeTarget (cluster : Cluster Name Id Doc) (name : Name) : Option Name :=
  if (cluster.indices name).isSome then some name
  else
    match (cluster.aliasEntries name).find? fun entry => entry.isWriteIndex == some true with
    | some entry => some entry.index
    | none =>
      match cluster.aliasEntries name with
      | [entry] => if entry.isWriteIndex == some false then none else some entry.index
      | _ => none

/-- Change an index, if it exists. -/
def modify (cluster : Cluster Name Id Doc) (name : Name) (change : Index Id Doc → Index Id Doc) :
    Cluster Name Id Doc :=
  { cluster with
    indices := Function.update cluster.indices name ((cluster.indices name).map change)
    attached := by
      intro entry member
      obtain ⟨isAlias, present⟩ := cluster.attached entry member
      have kept : ∀ other, Function.update cluster.indices name
          ((cluster.indices name).map change) other = none ↔ cluster.indices other = none := by
        intro other
        by_cases same : other = name
        · rw [same, Function.update_self, Option.map_eq_none_iff]
        · rw [Function.update_of_ne same]
      exact ⟨(kept _).mpr isAlias, mt (kept _).mp present⟩ }

/-- Create an index, under a name that nothing has. -/
def create (cluster : Cluster Name Id Doc) (name : Name) : Option (Cluster Name Id Doc) :=
  if free : ∀ entry ∈ cluster.aliases, entry.aliasName ≠ name then
    if cluster.indices name = none then
      some
        { cluster with
          indices := Function.update cluster.indices name (some .empty)
          attached := by
            intro entry member
            obtain ⟨isAlias, present⟩ := cluster.attached entry member
            refine ⟨?_, ?_⟩
            · rw [Function.update_of_ne (free entry member)]
              exact isAlias
            · by_cases same : entry.index = name
              · rw [same, Function.update_self]
                exact Option.some_ne_none _
              · rw [Function.update_of_ne same]
                exact present }
    else none
  else none

def refresh (cluster : Cluster Name Id Doc) (name : Name) : Cluster Name Id Doc :=
  cluster.modify name Index.refresh

/-- The number of visible documents; `none` if nothing has the name. -/
def count (cluster : Cluster Name Id Doc) (name : Name) : Option Nat :=
  match cluster.resolve name with
  | [] => none
  | index :: rest => some (((index :: rest).map fun entry => entry.2.count).sum)

/-- A document is visible under an id to a search by a name. -/
def Readable (cluster : Cluster Name Id Doc) (name : Name) (id : Id) (doc : Doc) : Prop :=
  ∃ entry ∈ cluster.resolve name, entry.2.visible.find id = some doc

section Documents

variable [DecidableEq Id]

/-- Store a document through a name; `none` if no index takes the write. -/
def index (cluster : Cluster Name Id Doc) (name : Name) (id : Id) (doc : Doc) :
    Option (Cluster Name Id Doc) :=
  (cluster.writeTarget name).map fun target => cluster.modify target (·.put id doc)

/-- What a search over several indices finds. -/
def searched (preferred : Id → Name) (indices : List (Name × Index Id Doc)) :
    Collection Id Doc where
  keys := (indices.flatMap fun entry => entry.2.visible.keys).dedup
  find id :=
    ((indices.filter fun entry => entry.1 = preferred id).findSome? fun entry =>
      entry.2.visible.find id).or (indices.findSome? fun entry => entry.2.visible.find id)
  distinct := List.nodup_dedup _
  known id found := by
    rw [List.mem_dedup, List.mem_flatMap]
    have somewhere : ∃ entry ∈ indices, entry.2.visible.find id ≠ none := by
      by_contra nowhere
      simp only [not_exists, not_and, not_not] at nowhere
      refine found ?_
      rw [List.findSome?_eq_none_iff.mpr nowhere, Option.or_none]
      exact List.findSome?_eq_none_iff.mpr fun entry member =>
        nowhere entry (List.mem_of_mem_filter member)
    obtain ⟨entry, member, has⟩ := somewhere
    exact ⟨entry, member, entry.2.visible.known id has⟩

end Documents

/-! ### Copying documents -/

/-- A document to be copied from an index; a conflict leaves what the target has. -/
structure Copy (Name Id : Type) where
  index : Name
  id : Id
  conflicts : Bool

section Copying

variable [DecidableEq Id] {sources : List (Name × Index Id Doc)}

def copyOne (sources : List (Name × Index Id Doc)) (target : Collection Id Doc)
    (copy : Copy Name Id) : Collection Id Doc :=
  if copy.conflicts then target
  else
    match (sources.find? fun entry => entry.1 = copy.index).bind fun entry =>
        entry.2.visible.find copy.id with
    | some doc => target.put copy.id doc
    | none => target

/-- What some copies leave in an empty target, each in place of an earlier one of its id. -/
def copied (sources : List (Name × Index Id Doc)) (copies : List (Copy Name Id)) :
    Collection Id Doc :=
  copies.foldl (copyOne sources) .empty

/-- Every document of a collection is one of the sources', under its id. -/
def CopiedFrom (sources : List (Name × Index Id Doc)) (target : Collection Id Doc) : Prop :=
  ∀ id doc, target.find id = some doc → ∃ entry ∈ sources, entry.2.visible.find id = some doc

theorem CopiedFrom.copyOne {target : Collection Id Doc} (faithful : CopiedFrom sources target)
    (copy : Copy Name Id) : CopiedFrom sources (copyOne sources target copy) := by
  unfold Cluster.copyOne
  split
  · exact faithful
  · split
    · rename_i doc isDoc
      obtain ⟨entry, isEntry, stored⟩ := Option.bind_eq_some_iff.mp isDoc
      intro id other found
      rw [Collection.find_put] at found
      by_cases same : id = copy.id
      · rw [same, Function.update_self, Option.some_inj] at found
        exact ⟨entry, List.mem_of_find?_eq_some isEntry, same ▸ found ▸ stored⟩
      · rw [Function.update_of_ne same] at found
        exact faithful id other found
    · exact faithful

theorem copiedFrom_copied (sources : List (Name × Index Id Doc)) (copies : List (Copy Name Id)) :
    CopiedFrom sources (copied sources copies) := by
  have whole : ∀ target : Collection Id Doc, CopiedFrom sources target →
      CopiedFrom sources (copies.foldl (Cluster.copyOne sources) target) := by
    induction copies with
    | nil => exact fun _ faithful => faithful
    | cons copy rest inductionHypothesis =>
      exact fun target faithful => inductionHypothesis _ (faithful.copyOne copy)
  exact whole .empty nofun

omit [DecidableEq Name] [DecidableEq Id] in
theorem mem_ids {collection : Collection Id Doc} {id : Id} :
    id ∈ collection.entries.map Prod.fst ↔ collection.find id ≠ none := by
  rw [List.mem_map, Option.ne_none_iff_exists']
  constructor
  · rintro ⟨entry, member, rfl⟩
    exact ⟨entry.2, Collection.mem_entries.mp member⟩
  · rintro ⟨doc, found⟩
    exact ⟨(id, doc), Collection.mem_entries.mpr found, rfl⟩

omit [DecidableEq Name] [DecidableEq Id] in
/-- A faithful copy with as many documents as its sources together has all of them, and no two
sources have a document under one id. -/
theorem CopiedFrom.complete {target : Collection Id Doc} (faithful : CopiedFrom sources target)
    (counted : (sources.map fun entry => entry.2.count).sum = target.entries.length) :
    (∀ entry ∈ sources, ∀ id doc, entry.2.visible.find id = some doc →
      target.find id = some doc) ∧
    ∀ first ∈ sources, ∀ second ∈ sources, ∀ id, first.2.visible.find id ≠ none →
      second.2.visible.find id ≠ none → first = second := by
  let ids := sources.flatMap fun entry => entry.2.visible.entries.map Prod.fst
  have length : ids.length = (target.entries.map Prod.fst).length := by
    rw [List.length_map, ← counted, List.length_flatMap]
    refine congrArg List.sum (List.map_congr_left fun entry _ => ?_)
    rw [List.length_map, Index.count]
  have listed : target.entries.map Prod.fst ⊆ ids := by
    intro id member
    obtain ⟨doc, found⟩ := Option.ne_none_iff_exists'.mp (mem_ids.mp member)
    obtain ⟨entry, isSource, stored⟩ := faithful id doc found
    refine List.mem_flatMap.mpr ⟨entry, isSource, mem_ids.mpr ?_⟩
    rw [stored]
    exact Option.some_ne_none doc
  have perm := (List.subperm_of_subset target.distinct_entries listed).perm_of_length_le
    (le_of_eq length)
  have distinct := perm.nodup_iff.mp target.distinct_entries
  have disjoint := (List.nodup_flatMap.mp distinct).2
  have symmetric : Std.Symm (Function.onFun List.Disjoint fun entry : Name × Index Id Doc =>
      entry.2.visible.entries.map Prod.fst) :=
    ⟨fun _ _ apart => apart.symm⟩
  have single : ∀ first ∈ sources, ∀ second ∈ sources, ∀ id,
      first.2.visible.find id ≠ none → second.2.visible.find id ≠ none → first = second := by
    intro first isFirst second isSecond id inFirst inSecond
    by_contra different
    exact disjoint.forall isFirst isSecond different (mem_ids.mpr inFirst) (mem_ids.mpr inSecond)
  refine ⟨fun entry isSource id doc stored => ?_, single⟩
  have present : entry.2.visible.find id ≠ none := by
    rw [stored]
    exact Option.some_ne_none doc
  have listedId : id ∈ ids := List.mem_flatMap.mpr ⟨entry, isSource, mem_ids.mpr present⟩
  obtain ⟨copy, found⟩ := Option.ne_none_iff_exists'.mp (mem_ids.mp (perm.mem_iff.mpr listedId))
  obtain ⟨other, isOther, storedOther⟩ := faithful id copy found
  have same := single other isOther entry isSource id (by
    rw [storedOther]
    exact Option.some_ne_none copy) present
  rw [found, ← storedOther, same, stored]

end Copying

/-! ### Alias actions -/

/-- Attach an alias to an index, in place of an earlier entry of the two. -/
def addAlias (cluster : Cluster Name Id Doc) (entry : AliasEntry Name)
    (allowed : cluster.indices entry.aliasName = none ∧ cluster.indices entry.index ≠ none) :
    Cluster Name Id Doc where
  indices := cluster.indices
  aliases := (cluster.aliases.filter fun other =>
    ¬(other.aliasName = entry.aliasName ∧ other.index = entry.index)) ++ [entry]
  attached other member := by
    rcases List.mem_append.mp member with kept | added
    · exact cluster.attached other (List.mem_of_mem_filter kept)
    · rw [List.mem_singleton.mp added]
      exact allowed
  distinct := by
    rw [List.map_append, List.nodup_append]
    refine ⟨cluster.distinct.sublist (List.Sublist.map _ List.filter_sublist),
      List.nodup_singleton _, ?_⟩
    rintro pair member other added rfl
    obtain ⟨kept, keptMember, rfl⟩ := List.mem_map.mp member
    obtain ⟨_, final, same⟩ := List.mem_map.mp added
    rw [List.mem_singleton.mp final, Prod.mk.injEq] at same
    exact absurd ⟨same.1.symm, same.2.symm⟩ (of_decide_eq_true (List.mem_filter.mp keptMember).2)

def removeAlias (cluster : Cluster Name Id Doc) (aliasName index : Name) :
    Cluster Name Id Doc where
  indices := cluster.indices
  aliases := cluster.aliases.filter fun entry =>
    ¬(entry.aliasName = aliasName ∧ entry.index = index)
  attached entry member := cluster.attached entry (List.mem_of_mem_filter member)
  distinct := cluster.distinct.sublist (List.Sublist.map _ List.filter_sublist)

/-- One alias action. Removing what is not there is refused, and so is adding a name that is an
index or an index that does not exist. -/
def aliasStep (cluster : Cluster Name Id Doc) : AliasAction Name → Option (Cluster Name Id Doc)
  | .remove aliasName index =>
    if index ∈ cluster.aliasIndices aliasName then some (cluster.removeAlias aliasName index)
    else none
  | .add aliasName index isWriteIndex =>
    if allowed : cluster.indices aliasName = none ∧ cluster.indices index ≠ none then
      some (cluster.addAlias ⟨aliasName, index, isWriteIndex⟩ allowed)
    else none

/-- All actions, or none if one is refused. -/
def updateAliases (cluster : Cluster Name Id Doc) (actions : List (AliasAction Name)) :
    Option (Cluster Name Id Doc) :=
  actions.foldlM aliasStep cluster

/-- What removing an alias from several indices leaves. -/
theorem updateAliases_remove {cluster next : Cluster Name Id Doc} {aliasName : Name}
    {names : List Name}
    (applied : cluster.updateAliases (names.map (.remove aliasName)) = some next) :
    next.indices = cluster.indices ∧ ∀ entry, entry ∈ next.aliases ↔
      entry ∈ cluster.aliases ∧ ¬(entry.aliasName = aliasName ∧ entry.index ∈ names) := by
  induction names generalizing cluster with
  | nil =>
    have same : cluster = next := Option.some.inj applied
    rw [same]
    refine ⟨rfl, fun entry => ?_⟩
    simp only [List.not_mem_nil, and_false, not_false_eq_true, and_true]
  | cons name names inductionHypothesis =>
    rw [updateAliases, List.map_cons, List.foldlM_cons] at applied
    obtain ⟨middle, first, rest⟩ := Option.bind_eq_some_iff.mp applied
    rw [aliasStep, Option.ite_none_right_eq_some, Option.some_inj] at first
    obtain ⟨indices, aliases⟩ := inductionHypothesis rest
    rw [← first.2] at indices aliases
    refine ⟨indices, fun entry => ?_⟩
    rw [aliases, removeAlias, List.mem_filter, decide_eq_true_eq, List.mem_cons]
    tauto

theorem updateAliases_append (cluster : Cluster Name Id Doc)
    (first second : List (AliasAction Name)) :
    cluster.updateAliases (first ++ second) =
      (cluster.updateAliases first).bind fun middle => middle.updateAliases second :=
  List.foldlM_append

theorem updateAliases_add {cluster next : Cluster Name Id Doc} {aliasName index : Name}
    {isWriteIndex : Option Bool}
    (applied : cluster.updateAliases [.add aliasName index isWriteIndex] = some next) :
    next.indices = cluster.indices ∧ next.aliases =
      (cluster.aliases.filter fun other => ¬(other.aliasName = aliasName ∧ other.index = index)) ++
        [⟨aliasName, index, isWriteIndex⟩] := by
  rw [updateAliases, List.foldlM_cons] at applied
  obtain ⟨middle, first, rest⟩ := Option.bind_eq_some_iff.mp applied
  have same : middle = next := Option.some.inj rest
  rw [aliasStep, Option.dite_none_right_eq_some] at first
  obtain ⟨allowed, isMiddle⟩ := first
  rw [← same, ← Option.some.inj isMiddle]
  exact ⟨rfl, rfl⟩

/-! ### Guarded alias updates -/

/-- No alias has two write indices. -/
def OneWriteIndex (cluster : Cluster Name Id Doc) : Prop :=
  ∀ entry ∈ cluster.aliases, ((cluster.aliasEntries entry.aliasName).countP fun other =>
    other.isWriteIndex == some true) ≤ 1

instance (cluster : Cluster Name Id Doc) : Decidable cluster.OneWriteIndex :=
  inferInstanceAs (Decidable (∀ entry ∈ cluster.aliases, _))

/-- One alias action, where removing what is not there may be passed over. -/
def guardedStep (passesOver : Bool) (cluster : Cluster Name Id Doc) :
    AliasAction Name → Option (Cluster Name Id Doc)
  | .remove aliasName index =>
    if passesOver then some (cluster.removeAlias aliasName index)
    else cluster.aliasStep (.remove aliasName index)
  | .add aliasName index isWriteIndex => cluster.aliasStep (.add aliasName index isWriteIndex)

/-- All actions, or none if one is refused or an alias would have two write indices. -/
def guardedUpdate (passesOver : Bool) (cluster : Cluster Name Id Doc)
    (actions : List (AliasAction Name)) : Option (Cluster Name Id Doc) :=
  (actions.foldlM (guardedStep passesOver) cluster).filter fun next => decide next.OneWriteIndex

/-- What an action makes of the entries of a name. -/
def entriesAfter (name : Name) (entries : List (AliasEntry Name)) :
    AliasAction Name → List (AliasEntry Name)
  | .remove aliasName index =>
    if aliasName = name then entries.filter fun entry => entry.index ≠ index else entries
  | .add aliasName index isWriteIndex =>
    if aliasName = name then
      (entries.filter fun entry => entry.index ≠ index) ++ [⟨aliasName, index, isWriteIndex⟩]
    else entries

theorem mem_aliasEntries {cluster : Cluster Name Id Doc} {name : Name} {entry : AliasEntry Name} :
    entry ∈ cluster.aliasEntries name ↔ entry ∈ cluster.aliases ∧ entry.aliasName = name := by
  rw [aliasEntries, List.mem_filter, decide_eq_true_eq]

/-- Dropping the pair of an alias and an index, seen from the entries of a name. -/
theorem filter_pair (entries : List (AliasEntry Name)) (name aliasName index : Name) :
    (entries.filter fun entry => ¬(entry.aliasName = aliasName ∧ entry.index = index)).filter
        (fun entry => entry.aliasName = name) =
      if aliasName = name then
        (entries.filter fun entry => entry.aliasName = name).filter fun entry =>
          entry.index ≠ index
      else entries.filter fun entry => entry.aliasName = name := by
  by_cases same : aliasName = name
  · rw [if_pos same, List.filter_comm, List.filter_filter, List.filter_filter]
    refine List.filter_congr fun entry _ => ?_
    by_cases named : entry.aliasName = name
    · simp only [named, same, true_and, decide_true, Bool.and_true]
    · simp only [named, decide_false, Bool.and_false]
  · rw [if_neg same, List.filter_filter]
    refine List.filter_congr fun entry _ => ?_
    by_cases named : entry.aliasName = name
    · simp only [named, Ne.symm same, false_and, not_false_eq_true, decide_true, Bool.and_true]
    · simp only [named, decide_false, Bool.false_and]

theorem aliasEntries_removeAlias (cluster : Cluster Name Id Doc) (name aliasName index : Name) :
    (cluster.removeAlias aliasName index).aliasEntries name =
      entriesAfter name (cluster.aliasEntries name) (.remove aliasName index) :=
  filter_pair cluster.aliases name aliasName index

theorem guardedStep_aliasEntries {passesOver : Bool} {cluster next : Cluster Name Id Doc}
    {action : AliasAction Name} (applied : cluster.guardedStep passesOver action = some next)
    (name : Name) :
    next.aliasEntries name = entriesAfter name (cluster.aliasEntries name) action := by
  cases action with
  | remove aliasName index =>
    have removed : cluster.removeAlias aliasName index = next := by
      rw [guardedStep] at applied
      by_cases skips : passesOver = true
      · rw [if_pos skips] at applied
        exact Option.some.inj applied
      · rw [if_neg skips, aliasStep, Option.ite_none_right_eq_some] at applied
        exact Option.some.inj applied.2
    rw [← removed]
    exact aliasEntries_removeAlias cluster name aliasName index
  | add aliasName index isWriteIndex =>
    rw [guardedStep, aliasStep, Option.dite_none_right_eq_some] at applied
    obtain ⟨allowed, isNext⟩ := applied
    rw [← Option.some.inj isNext, aliasEntries, addAlias, List.filter_append, filter_pair,
      entriesAfter]
    by_cases same : aliasName = name
    · rw [if_pos same, if_pos same]
      exact congrArg _ (List.filter_cons_of_pos (decide_eq_true same))
    · rw [if_neg same, if_neg same]
      refine (congrArg _ (List.filter_cons_of_neg ?_)).trans (List.append_nil _)
      exact mt of_decide_eq_true same

/-- What a guarded update leaves. -/
theorem guardedUpdate_aliasEntries {passesOver : Bool} {cluster next : Cluster Name Id Doc}
    {actions : List (AliasAction Name)}
    (applied : cluster.guardedUpdate passesOver actions = some next) (name : Name) :
    next.aliasEntries name = actions.foldl (entriesAfter name) (cluster.aliasEntries name) ∧
      ((next.aliasEntries name).countP fun other => other.isWriteIndex == some true) ≤ 1 := by
  rw [guardedUpdate, Option.filter_eq_some_iff, decide_eq_true_eq] at applied
  obtain ⟨folded, guarded⟩ := applied
  refine ⟨?_, ?_⟩
  · clear guarded
    induction actions generalizing cluster with
    | nil =>
      rw [List.foldl_nil, Option.some.inj folded]
    | cons action rest inductionHypothesis =>
      rw [List.foldlM_cons] at folded
      obtain ⟨middle, first, folded⟩ := Option.bind_eq_some_iff.mp folded
      rw [List.foldl_cons, ← guardedStep_aliasEntries first, inductionHypothesis folded]
  · cases entries : next.aliasEntries name with
    | nil => exact Nat.zero_le _
    | cons entry rest =>
      have member : entry ∈ next.aliasEntries name := by
        rw [entries]
        exact List.mem_cons_self
      obtain ⟨listed, named⟩ := mem_aliasEntries.mp member
      rw [← entries, ← named]
      exact guarded entry listed

/-- Removing an alias from several indices. -/
theorem foldl_entriesAfter_remove (name aliasName : Name) (names : List Name)
    (entries : List (AliasEntry Name)) :
    (names.map (.remove aliasName)).foldl (entriesAfter name) entries =
      if aliasName = name then entries.filter fun entry => entry.index ∉ names else entries := by
  induction names generalizing entries with
  | nil =>
    simp only [List.map_nil, List.foldl_nil, List.not_mem_nil, not_false_eq_true, decide_true,
      List.filter_true, ite_self]
  | cons first rest inductionHypothesis =>
    rw [List.map_cons, List.foldl_cons, inductionHypothesis, entriesAfter]
    by_cases same : aliasName = name
    · rw [if_pos same, if_pos same, if_pos same, List.filter_filter]
      refine List.filter_congr fun entry _ => ?_
      rw [Bool.eq_iff_iff, Bool.and_eq_true, decide_eq_true_eq, decide_eq_true_eq,
        decide_eq_true_eq, List.mem_cons, not_or, and_comm]
    · rw [if_neg same, if_neg same, if_neg same]

/-! ### What the operations leave -/

theorem indices_modify (cluster : Cluster Name Id Doc) (name : Name)
    (change : Index Id Doc → Index Id Doc) : (cluster.modify name change).indices =
      Function.update cluster.indices name ((cluster.indices name).map change) := rfl

theorem aliases_modify (cluster : Cluster Name Id Doc) (name : Name)
    (change : Index Id Doc → Index Id Doc) :
    (cluster.modify name change).aliases = cluster.aliases := rfl

/-- What creating an index does. -/
theorem create_eq_some {cluster next : Cluster Name Id Doc} {name : Name}
    (created : cluster.create name = some next) :
    cluster.indices name = none ∧ next.aliases = cluster.aliases ∧
      next.indices = Function.update cluster.indices name (some .empty) := by
  rw [create, Option.dite_none_right_eq_some] at created
  obtain ⟨free, created⟩ := created
  rw [Option.ite_none_right_eq_some, Option.some_inj] at created
  rw [← created.2]
  exact ⟨created.1, rfl, rfl⟩

/-- A write goes to the name itself or to an index that an alias is attached to. -/
theorem writeTarget_mem {cluster : Cluster Name Id Doc} {name target : Name}
    (takes : cluster.writeTarget name = some target) :
    target = name ∨ ∃ entry ∈ cluster.aliases, entry.index = target := by
  by_cases isIndex : (cluster.indices name).isSome = true
  · rw [writeTarget, if_pos isIndex, Option.some_inj] at takes
    exact Or.inl takes.symm
  · rw [writeTarget, if_neg isIndex] at takes
    have listed : ∀ entry ∈ cluster.aliasEntries name, entry ∈ cluster.aliases :=
      fun entry member => List.mem_of_mem_filter member
    refine Or.inr ?_
    split at takes
    · rename_i entry marked
      exact ⟨entry, listed entry (List.mem_of_find?_eq_some marked), Option.some.inj takes⟩
    · split at takes
      · rename_i entry only
        rw [Option.ite_none_left_eq_some, Option.some_inj] at takes
        exact ⟨entry, listed entry (only ▸ List.mem_singleton_self entry), takes.2⟩
      · exact nomatch takes

section Single

variable {cluster : Cluster Name Id Doc} {name : Name} {entry : AliasEntry Name}

theorem isAlias_of_aliasEntries (only : cluster.aliasEntries name = [entry]) :
    entry.aliasName = name ∧ cluster.indices name = none := by
  have member : entry ∈ cluster.aliasEntries name := only ▸ List.mem_singleton_self entry
  obtain ⟨listed, named⟩ := List.mem_filter.mp member
  have named : entry.aliasName = name := of_decide_eq_true named
  exact ⟨named, named ▸ (cluster.attached entry listed).1⟩

/-- A request to an alias of one index addresses that index. -/
theorem resolve_single (only : cluster.aliasEntries name = [entry]) {index : Index Id Doc}
    (present : cluster.indices entry.index = some index) :
    cluster.resolve name = [(entry.index, index)] := by
  rw [resolve, (isAlias_of_aliasEntries only).2]
  dsimp only
  rw [aliasIndices, only, List.map_singleton, List.filterMap_cons, present]
  rfl

/-- A write to an alias goes to its only index, if that is marked for it. -/
theorem writeTarget_single (only : cluster.aliasEntries name = [entry])
    (marked : entry.isWriteIndex = some true) : cluster.writeTarget name = some entry.index := by
  rw [writeTarget, (isAlias_of_aliasEntries only).2, if_neg (by simp), only, List.find?_cons,
    marked]
  rfl

end Single

/-! ### Writing through one alias and searching through another -/

/-- What an index behind an alias shows is found by searches through the alias. -/
theorem readable_of_mem_aliasIndices {cluster : Cluster Name Id Doc} {name target : Name}
    {index : Index Id Doc} {id : Id} {doc : Doc} (covered : target ∈ cluster.aliasIndices name)
    (present : cluster.indices target = some index) (shown : index.visible.find id = some doc) :
    cluster.Readable name id doc := by
  obtain ⟨entry, member, rfl⟩ := List.mem_map.mp covered
  obtain ⟨listed, named⟩ := mem_aliasEntries.mp member
  have isAlias : cluster.indices name = none := named ▸ (cluster.attached entry listed).1
  refine ⟨(entry.index, index), ?_, shown⟩
  rw [resolve, isAlias]
  refine List.mem_filterMap.mpr ⟨entry.index, covered, ?_⟩
  rw [present, Option.map_some]

/-- A document written through one alias is found through another one that covers the index it
went to, from the next refresh of that index on. -/
theorem readable_refresh_index [DecidableEq Id] {cluster : Cluster Name Id Doc}
    {writer reader target : Name} (takes : cluster.writeTarget writer = some target)
    (covered : target ∈ cluster.aliasIndices reader) (id : Id) (doc : Doc) :
    ∃ stored, cluster.index writer id doc = some stored ∧
      (stored.refresh target).Readable reader id doc := by
  obtain ⟨entry, member, rfl⟩ := List.mem_map.mp covered
  obtain ⟨index, present⟩ := Option.ne_none_iff_exists'.mp
    (cluster.attached entry (mem_aliasEntries.mp member).1).2
  refine ⟨cluster.modify entry.index (·.put id doc), ?_, ?_⟩
  · rw [Cluster.index, takes, Option.map_some]
  · have written : ((cluster.modify entry.index (·.put id doc)).refresh entry.index).indices
        entry.index = some (index.put id doc).refresh := by
      rw [refresh, indices_modify, Function.update_self, indices_modify, Function.update_self,
        present, Option.map_some, Option.map_some]
    refine readable_of_mem_aliasIndices ?_ written ?_
    · rw [refresh, aliasIndices, aliasEntries, aliases_modify, aliases_modify]
      exact covered
    · rw [Index.refresh, Index.put, Collection.find_put, Function.update_self]

end Cluster

end SearchCluster
