/-
This file is about keyset pagination: pages of a collection in the order of a
key, each asked for by the key the previous page ended with.

The collection may grow between two pages. A walk that goes on until a page has
nothing behind it lists what was there at the start, in order and nothing twice;
and if the collection does not grow the pages are the sorted collection, cut
into pieces. Items have distinct keys throughout.
-/

import Mathlib

namespace Keyset

variable {Item Key : Type} [LinearOrder Key] (key : Item → Key)

/-- The items behind a bound; without a bound, all of them. -/
def following (after : Option Key) (items : List Item) : List Item :=
  items.filter fun item => after.all fun bound => decide (bound < key item)

def sorted (items : List Item) : List Item :=
  items.insertionSort fun first second => key first ≤ key second

/-- The first items behind a bound. -/
def page (limit : Nat) (after : Option Key) (items : List Item) : List Item :=
  (sorted key (following key after items)).take limit

/-- There are more items behind the bound than fit on a page. -/
def hasMore (limit : Nat) (after : Option Key) (items : List Item) : Bool :=
  decide (limit < (following key after items).length)

/-- The key a list of items ends with. -/
def lastKey (items : List Item) : Option Key := items.getLast?.map key

variable {key}

/-! ### Sorting -/

/-- In strictly increasing order of the key. -/
def Increasing (key : Item → Key) (items : List Item) : Prop :=
  items.Pairwise fun first second => key first < key second

theorem mem_sorted {items : List Item} {item : Item} : item ∈ sorted key items ↔ item ∈ items :=
  List.mem_insertionSort _

theorem length_sorted (key : Item → Key) (items : List Item) :
    (sorted key items).length = items.length :=
  List.length_insertionSort _ items

theorem increasing_sorted {items : List Item} (distinct : (items.map key).Nodup) :
    Increasing key (sorted key items) := by
  have total : Std.Total fun first second : Item => key first ≤ key second :=
    ⟨fun first second => le_total (key first) (key second)⟩
  have transitive : IsTrans Item fun first second => key first ≤ key second :=
    ⟨fun _ _ _ => le_trans⟩
  have ordered := List.pairwise_insertionSort (fun first second : Item => key first ≤ key second)
    items
  have different : (sorted key items).Pairwise fun first second => key first ≠ key second := by
    have permuted := (List.perm_insertionSort
      (fun first second : Item => key first ≤ key second) items).map key
    exact List.pairwise_map.mp (permuted.nodup_iff.mpr distinct)
  exact (ordered.and different).imp fun both => lt_of_le_of_ne both.1 both.2

/-- Sorting commutes with leaving items out. -/
theorem sorted_filter {items : List Item} (distinct : (items.map key).Nodup)
    (keeps : Item → Bool) : sorted key (items.filter keeps) = (sorted key items).filter keeps := by
  have fewer : ((items.filter keeps).map key).Nodup :=
    distinct.sublist (List.Sublist.map key List.filter_sublist)
  have permuted : (sorted key (items.filter keeps)).Perm ((sorted key items).filter keeps) :=
    (List.perm_insertionSort _ _).trans ((List.perm_insertionSort _ items).symm.filter keeps)
  refine permuted.eq_of_pairwise ?_
    (increasing_sorted fewer) ((increasing_sorted distinct).sublist List.filter_sublist)
  exact fun first second _ _ before after => absurd (lt_trans before after) (lt_irrefl _)

/-- What is sorted depends on the items only. -/
theorem sorted_congr {first second : List Item} (distinctFirst : (first.map key).Nodup)
    (distinctSecond : (second.map key).Nodup)
    (same : ∀ item, item ∈ first ↔ item ∈ second) : sorted key first = sorted key second := by
  have permuted : first.Perm second :=
    (List.perm_ext_iff_of_nodup distinctFirst.of_map distinctSecond.of_map).mpr same
  have sortedPermuted : (sorted key first).Perm (sorted key second) :=
    (List.perm_insertionSort _ first).trans
      (permuted.trans (List.perm_insertionSort _ second).symm)
  refine sortedPermuted.eq_of_pairwise ?_
    (increasing_sorted distinctFirst) (increasing_sorted distinctSecond)
  exact fun _ _ _ _ before after => absurd (lt_trans before after) (lt_irrefl _)

omit [LinearOrder Key] in
theorem lastKey_append {first second : List Item} (nonempty : second ≠ []) :
    lastKey key (first ++ second) = lastKey key second := by
  rw [lastKey, lastKey, List.getLast?_append_of_ne_nil first nonempty]

/-- Every item of an increasing list is at most its last. -/
theorem le_lastKey {items : List Item} (ordered : Increasing key items) {item : Item}
    (member : item ∈ items) : ∃ bound, lastKey key items = some bound ∧ key item ≤ bound := by
  induction items using List.reverseRecOn with
  | nil => exact absurd member List.not_mem_nil
  | append_singleton items last _ =>
    refine ⟨key last, ?_, ?_⟩
    · rw [lastKey, List.getLast?_concat, Option.map_some]
    · rcases List.mem_append.mp member with earlier | final
      · exact le_of_lt ((List.pairwise_append.mp ordered).2.2 item earlier last List.mem_cons_self)
      · rw [List.mem_singleton.mp final]

/-- What is behind the last of a prefix of an increasing list is the rest of it. -/
theorem following_take {items : List Item} (ordered : Increasing key items) (count : Nat) :
    following key (lastKey key (items.take count)) items = items.drop count := by
  by_cases nothing : items.take count = []
  · have all : items.drop count = items := by
      have whole := List.take_append_drop count items
      rw [nothing, List.nil_append] at whole
      exact whole
    rw [nothing, all, following]
    exact List.filter_eq_self.mpr fun _ _ => rfl
  · obtain ⟨bound, isLast⟩ : ∃ bound, lastKey key (items.take count) = some bound := by
      rw [lastKey, List.getLast?_eq_some_getLast nothing]
      exact ⟨_, rfl⟩
    have split : Increasing key (items.take count ++ items.drop count) := by
      rw [List.take_append_drop]
      exact ordered
    obtain ⟨front, _, across⟩ := List.pairwise_append.mp split
    rw [isLast, following]
    conv_lhs => rw [← List.take_append_drop count items]
    rw [List.filter_append]
    have left : (items.take count).filter (fun item => (some bound).all fun bound =>
        decide (bound < key item)) = [] := by
      refine List.filter_eq_nil_iff.mpr fun item member => ?_
      obtain ⟨last, same, most⟩ := le_lastKey front member
      rw [isLast, Option.some_inj] at same
      rw [Option.all_some, decide_eq_true_eq, not_lt, same]
      exact most
    have right : (items.drop count).filter (fun item => (some bound).all fun bound =>
        decide (bound < key item)) = items.drop count := by
      refine List.filter_eq_self.mpr fun item member => ?_
      rw [Option.all_some, decide_eq_true_eq]
      rw [lastKey, List.getLast?_eq_some_getLast nothing, Option.map_some, Option.some_inj]
        at isLast
      rw [← isLast]
      exact across _ (List.getLast_mem nothing) item member
    rw [left, right, List.nil_append]

/-! ### The first items -/

/-- These are the first of the matching items, in order, as many as the limit has room for. -/
structure First (key : Item → Key) (limit : Option Nat) (matching : Item → Prop)
    (chosen : List Item) : Prop where
  ordered : Increasing key chosen
  matched : ∀ item ∈ chosen, matching item
  bounded : ∀ bound, limit = some bound → chosen.length ≤ bound
  complete : ∀ item, matching item → item ∈ chosen ∨
    limit = some chosen.length ∧ ∀ other ∈ chosen, key other < key item

section First

variable {limit : Option Nat} {matching : Item → Prop} {first second : List Item}

theorem Increasing.nodup {items : List Item} (ordered : Increasing key items) : items.Nodup :=
  ordered.imp fun before same => absurd (same ▸ before) (lt_irrefl _)

/-- An item that only one of two selections has would be one more than the limit allows. -/
theorem First.subset (isFirst : First key limit matching first)
    (isSecond : First key limit matching second) : ∀ item ∈ first, item ∈ second := by
  intro item member
  refine (isSecond.complete item (isFirst.matched item member)).resolve_right ?_
  rintro ⟨full, before⟩
  have contained : item :: second ⊆ first := by
    refine List.cons_subset.mpr ⟨member, fun other isOther => ?_⟩
    refine (isFirst.complete other (isSecond.matched other isOther)).resolve_right ?_
    rintro ⟨_, behind⟩
    exact lt_irrefl _ (lt_trans (before other isOther) (behind item member))
  have new : item ∉ second := fun inSecond => lt_irrefl _ (before item inSecond)
  have distinct : (item :: second).Nodup := List.nodup_cons.mpr ⟨new, isSecond.ordered.nodup⟩
  have longer := (List.subperm_of_subset distinct contained).length_le
  have bounded := isFirst.bounded second.length full
  rw [List.length_cons] at longer
  omega

/-- There is one selection of the first items only. -/
theorem First.unique (isFirst : First key limit matching first)
    (isSecond : First key limit matching second) : first = second := by
  have permuted : first.Perm second :=
    (List.perm_ext_iff_of_nodup isFirst.ordered.nodup isSecond.ordered.nodup).mpr fun item =>
      ⟨isFirst.subset isSecond item, isSecond.subset isFirst item⟩
  refine permuted.eq_of_pairwise ?_ isFirst.ordered isSecond.ordered
  exact fun _ _ _ _ before after => absurd (lt_trans before after) (lt_irrefl _)

/-- Without a limit, all of a sorted list. -/
theorem first_of_increasing (ordered : Increasing key first) :
    First key none (fun item => item ∈ first) first where
  ordered := ordered
  matched _ member := member
  bounded _ same := absurd same.symm (Option.some_ne_none _)
  complete _ member := Or.inl member

/-- With a limit, a beginning of a sorted list. -/
theorem first_take (ordered : Increasing key first) (count : Nat) :
    First key (some count) (fun item => item ∈ first) (first.take count) where
  ordered := ordered.sublist (List.take_sublist count first)
  matched _ member := List.mem_of_mem_take member
  bounded bound same := by
    obtain rfl := Option.some.inj same
    exact List.length_take_le count first
  complete item member := by
    rw [← List.take_append_drop count first, List.mem_append] at member
    refine member.imp_right fun behind => ⟨?_, fun other isOther => ?_⟩
    · have rest := List.length_pos_of_mem behind
      rw [List.length_drop] at rest
      rw [List.length_take, Nat.min_eq_left (by omega)]
    · rw [Increasing, ← List.take_append_drop count first, List.pairwise_append] at ordered
      exact ordered.2.2 other isOther item behind

theorem First.congr {others : Item → Prop} (isFirst : First key limit matching first)
    (same : ∀ item, matching item ↔ others item) : First key limit others first where
  ordered := isFirst.ordered
  matched item member := (same item).mp (isFirst.matched item member)
  bounded := isFirst.bounded
  complete item isOther := isFirst.complete item ((same item).mpr isOther)

end First

/-! ### One page -/

section Page

variable {items : List Item} {limit : Nat} {after : Option Key}

theorem mem_following {item : Item} :
    item ∈ following key after items ↔
      item ∈ items ∧ ∀ bound, after = some bound → bound < key item := by
  rw [following, List.mem_filter]
  cases after with
  | none => simp only [Option.all_none, reduceCtorEq, false_imp_iff, implies_true]
  | some bound => simp only [Option.all_some, decide_eq_true_eq, Option.some_inj, forall_eq']

theorem mem_page {item : Item} (member : item ∈ page key limit after items) :
    item ∈ items ∧ ∀ bound, after = some bound → bound < key item :=
  mem_following.mp (mem_sorted.mp (List.mem_of_mem_take member))

theorem distinct_following (distinct : (items.map key).Nodup) :
    ((following key after items).map key).Nodup :=
  distinct.sublist (List.Sublist.map key List.filter_sublist)

theorem increasing_page (distinct : (items.map key).Nodup) :
    Increasing key (page key limit after items) :=
  (increasing_sorted (distinct_following distinct)).sublist (List.take_sublist _ _)

theorem page_congr {others : List Item} (distinct : (items.map key).Nodup)
    (distinctOthers : (others.map key).Nodup) (same : ∀ item, item ∈ items ↔ item ∈ others) :
    page key limit after items = page key limit after others ∧
      hasMore key limit after items = hasMore key limit after others := by
  have sorts :
      sorted key (following key after items) = sorted key (following key after others) := by
    refine sorted_congr (distinct_following distinct) (distinct_following distinctOthers) ?_
    intro item
    rw [mem_following, mem_following, same]
  refine ⟨congrArg (List.take limit) sorts, ?_⟩
  rw [hasMore, hasMore, ← length_sorted key (following key after items), sorts, length_sorted]

/-- A page is not empty when there is more than fits on it. -/
theorem page_ne_nil (more : hasMore key limit after items = true) (positive : 0 < limit) :
    page key limit after items ≠ [] := by
  rw [hasMore, decide_eq_true_eq, ← length_sorted key (following key after items)] at more
  intro empty
  rw [page] at empty
  have length := congrArg List.length empty
  rw [List.length_take, List.length_nil] at length
  omega

/-- What is behind the bound is on the page or behind the last item of the page. -/
theorem mem_page_or_following (distinct : (items.map key).Nodup) {item : Item}
    (member : item ∈ following key after items) :
    item ∈ page key limit after items ∨
      ∀ bound, lastKey key (page key limit after items) = some bound → bound < key item := by
  have inSorted : item ∈ sorted key (following key after items) := mem_sorted.mpr member
  rw [← List.take_append_drop limit (sorted key (following key after items)), List.mem_append]
    at inSorted
  refine inSorted.imp id fun rest bound isLast => ?_
  have ordered : Increasing key (sorted key (following key after items)) :=
    increasing_sorted (distinct_following distinct)
  have split : following key (lastKey key (page key limit after items))
      (sorted key (following key after items)) =
        (sorted key (following key after items)).drop limit := following_take ordered limit
  rw [← split] at rest
  exact (mem_following.mp rest).2 bound isLast

/-- A page with nothing behind it has all that is behind the bound. -/
theorem mem_page_of_last (last : hasMore key limit after items = false) {item : Item}
    (member : item ∈ following key after items) : item ∈ page key limit after items := by
  rw [hasMore, decide_eq_false_iff_not, not_lt, ← length_sorted key (following key after items)]
    at last
  rw [page, List.take_of_length_le last]
  exact mem_sorted.mpr member

end Page

/-! ### A walk over a growing collection -/

/-- What the pages of a walk list so far: increasing, ending with the bound of the next page,
with every item of the start up to that bound. -/
structure Listed (key : Item → Key) (start : List Item) (after : Option Key) (listed : List Item) :
    Prop where
  ordered : Increasing key listed
  last : lastKey key listed = after
  complete : ∀ item ∈ start, (∃ bound, after = some bound ∧ key item ≤ bound) → item ∈ listed

theorem Listed.nil (start : List Item) : Listed key start none [] where
  ordered := List.Pairwise.nil
  last := rfl
  complete _ _ := by
    rintro ⟨bound, none, _⟩
    exact nomatch none

section Walk

variable {start listed items : List Item} {after : Option Key} {limit : Nat}

/-- The next page goes on in order. -/
theorem Listed.increasing_append (walk : Listed key start after listed)
    (distinct : (items.map key).Nodup) :
    Increasing key (listed ++ page key limit after items) := by
  refine List.pairwise_append.mpr ⟨walk.ordered, increasing_page distinct, ?_⟩
  intro first member second onPage
  obtain ⟨bound, isLast, most⟩ := le_lastKey walk.ordered member
  rw [walk.last] at isLast
  exact lt_of_le_of_lt most ((mem_page onPage).2 bound isLast)

/-- What was there at the start is listed already or behind the bound. -/
theorem Listed.mem_or_following (walk : Listed key start after listed)
    (grown : ∀ item ∈ start, item ∈ items) {item : Item} (member : item ∈ start) :
    item ∈ listed ∨ item ∈ following key after items := by
  by_cases behind : ∀ bound, after = some bound → bound < key item
  · exact Or.inr (mem_following.mpr ⟨grown item member, behind⟩)
  · refine Or.inl (walk.complete item member ?_)
    simp only [not_forall, not_lt] at behind
    obtain ⟨bound, isBound, most⟩ := behind
    exact ⟨bound, isBound, most⟩

/-- One page with more behind it. -/
theorem Listed.next (walk : Listed key start after listed) (grown : ∀ item ∈ start, item ∈ items)
    (distinct : (items.map key).Nodup) (positive : 0 < limit)
    (more : hasMore key limit after items = true) :
    Listed key start (lastKey key (page key limit after items))
      (listed ++ page key limit after items) where
  ordered := walk.increasing_append distinct
  last := lastKey_append (page_ne_nil more positive)
  complete item member := by
    rintro ⟨bound, isLast, most⟩
    rw [List.mem_append]
    rcases walk.mem_or_following grown member with early | behind
    · exact Or.inl early
    · rcases mem_page_or_following distinct behind with onPage | later
      · exact Or.inr onPage
      · exact absurd (later bound isLast) (not_lt.mpr most)

/-- The last page completes the walk. -/
theorem Listed.finish (walk : Listed key start after listed) (grown : ∀ item ∈ start, item ∈ items)
    (last : hasMore key limit after items = false) :
    ∀ item ∈ start, item ∈ listed ++ page key limit after items := by
  intro item member
  rw [List.mem_append]
  exact (walk.mem_or_following grown member).imp id (mem_page_of_last last)

end Walk

/-! ### A walk over a collection that does not grow -/

section Still

variable {items : List Item}

/-- Behind the last of the first items, a sorted collection goes on. -/
theorem sorted_following (distinct : (items.map key).Nodup) (count : Nat) :
    sorted key (following key (lastKey key ((sorted key items).take count)) items) =
      (sorted key items).drop count := by
  rw [following, sorted_filter distinct]
  exact following_take (increasing_sorted distinct) count

theorem page_still (distinct : (items.map key).Nodup) (limit count : Nat) :
    page key limit (lastKey key ((sorted key items).take count)) items =
      ((sorted key items).drop count).take limit := by
  rw [page, sorted_following distinct]

theorem hasMore_still (distinct : (items.map key).Nodup) (limit count : Nat) :
    hasMore key limit (lastKey key ((sorted key items).take count)) items =
      decide (limit < items.length - count) := by
  have length := congrArg List.length (sorted_following distinct count)
  rw [length_sorted, List.length_drop, length_sorted] at length
  rw [hasMore, length]

/-- The first items and the page behind them are the first items of the next count. -/
theorem take_append_page (distinct : (items.map key).Nodup) (limit count : Nat) :
    (sorted key items).take count ++
        page key limit (lastKey key ((sorted key items).take count)) items =
      (sorted key items).take (count + limit) := by
  rw [page_still distinct, List.take_add]

end Still

end Keyset
