/-
This file is about offset pagination: page after page cut out of an order of the
items, where each request may order items of equal key anew.

Concatenated, the pages have every item once for all choices of the orders
exactly if no page boundary lies inside a group of items of equal key: such a
boundary is the same cut of the items in every order, and any other one can be
made to show one item twice and to skip another.
-/

import MessageManagement.Library.Keyset

namespace OffsetPages

variable {Item Key : Type} [LinearOrder Key] (key : Item → Key)

/-- An order of the items that respects the key. -/
structure IsOrdering (items ordering : List Item) : Prop where
  perm : ordering.Perm items
  sorted : ordering.Pairwise fun first second => key first ≤ key second

/-- The page of this number, counted from zero. -/
def slice (limit page : Nat) (ordering : List Item) : List Item :=
  (ordering.drop (page * limit)).take limit

/-- The pages one after another, each in the order of its request. -/
def walk (limit pages : Nat) (orderings : Nat → List Item) : List Item :=
  (List.range pages).flatMap fun page => slice limit page (orderings page)

/-- The boundary lies inside the group of items that share the key of this one. -/
def Splits (items : List Item) (boundary : Nat) (item : Item) : Prop :=
  (items.countP fun other => decide (key other < key item)) < boundary ∧
    boundary < items.countP fun other => decide (key other ≤ key item)

variable {key}

/-! ### Sorted lists -/

section Sorted

variable {ordering : List Item} {accepts : Item → Bool}

/-- What a downward closed condition accepts of a sorted list comes first. -/
theorem take_countP (sorted : ordering.Pairwise fun first second => key first ≤ key second)
    (closed : ∀ first second, key first ≤ key second → accepts second = true →
      accepts first = true) :
    ordering.take (ordering.countP accepts) = ordering.filter accepts ∧
      ∀ item ∈ ordering.drop (ordering.countP accepts), accepts item = false := by
  induction ordering with
  | nil => exact ⟨rfl, fun _ member => absurd member List.not_mem_nil⟩
  | cons first rest inductionHypothesis =>
    obtain ⟨least, sortedRest⟩ := List.pairwise_cons.mp sorted
    obtain ⟨taken, dropped⟩ := inductionHypothesis sortedRest
    by_cases accepted : accepts first = true
    · rw [List.countP_cons_of_pos accepted, List.filter_cons_of_pos accepted, List.take_succ_cons,
        List.drop_succ_cons, taken]
      exact ⟨rfl, dropped⟩
    · have refused : ∀ item ∈ first :: rest, accepts item = false := by
        intro item member
        refine Bool.eq_false_iff.mpr fun accepts => ?_
        rcases List.mem_cons.mp member with rfl | later
        · exact accepted accepts
        · exact accepted (closed first item (least item later) accepts)
      have none : (first :: rest).countP accepts = 0 :=
        List.countP_eq_zero.mpr fun item member => Bool.eq_false_iff.mp (refused item member)
      rw [none, List.take_zero, List.drop_zero, List.filter_eq_nil_iff.mpr]
      · exact ⟨rfl, refused⟩
      · exact fun item member => Bool.eq_false_iff.mp (refused item member)

theorem accepts_getElem (sorted : ordering.Pairwise fun first second => key first ≤ key second)
    (closed : ∀ first second, key first ≤ key second → accepts second = true →
      accepts first = true) {index : Nat} (inside : index < ordering.length) :
    accepts ordering[index] = true ↔ index < ordering.countP accepts := by
  obtain ⟨taken, dropped⟩ := take_countP sorted closed
  by_cases early : index < ordering.countP accepts
  · have member : ordering[index] ∈ ordering.take (ordering.countP accepts) :=
      List.mem_take_iff_getElem.mpr ⟨index, lt_min early inside, rfl⟩
    rw [taken] at member
    exact iff_of_true (List.mem_filter.mp member).2 early
  · refine iff_of_false ?_ early
    have member : ordering[index] ∈ ordering.drop (ordering.countP accepts) := by
      refine List.mem_drop_iff_getElem.mpr ⟨index - ordering.countP accepts, by omega, ?_⟩
      congr 1
      omega
    rw [dropped _ member]
    exact Bool.false_ne_true

end Sorted

/-! ### Cuts that every order has -/

section Orderings

variable {items ordering other : List Item} {boundary limit pages : Nat}

theorem IsOrdering.le_closed (bound : Key) (first second : Item) (before : key first ≤ key second)
    (accepted : decide (key second ≤ bound) = true) : decide (key first ≤ bound) = true :=
  decide_eq_true (le_trans before (of_decide_eq_true accepted))

theorem IsOrdering.lt_closed (bound : Key) (first second : Item) (before : key first ≤ key second)
    (accepted : decide (key second < bound) = true) : decide (key first < bound) = true :=
  decide_eq_true (lt_of_le_of_lt before (of_decide_eq_true accepted))

theorem exists_ordering (key : Item → Key) (items : List Item) :
    IsOrdering key items (Keyset.sorted key items) where
  perm := List.perm_insertionSort _ items
  sorted := by
    have total : Std.Total fun first second : Item => key first ≤ key second :=
      ⟨fun first second => le_total (key first) (key second)⟩
    have transitive : IsTrans Item fun first second => key first ≤ key second :=
      ⟨fun _ _ _ => le_trans⟩
    exact List.pairwise_insertionSort _ items

/-- A boundary that no group of equal keys spans has the items of a bound before it. -/
theorem IsOrdering.exists_bound (isOrdering : IsOrdering key items ordering)
    (unsplit : ∀ item ∈ items, ¬ Splits key items boundary item) (positive : 0 < boundary)
    (inside : boundary ≤ ordering.length) :
    ∃ bound, (items.countP fun item => decide (key item ≤ bound)) = boundary := by
  have last : boundary - 1 < ordering.length := by omega
  have member : ordering[boundary - 1] ∈ items := isOrdering.perm.mem_iff.mp (List.getElem_mem last)
  have below := mt (accepts_getElem isOrdering.sorted
    (IsOrdering.lt_closed (key ordering[boundary - 1])) last).mpr
    (by rw [decide_eq_true_eq]; exact lt_irrefl _)
  have above := (accepts_getElem isOrdering.sorted
    (IsOrdering.le_closed (key ordering[boundary - 1])) last).mp (decide_eq_true (le_refl _))
  rw [isOrdering.perm.countP_eq] at below above
  have whole := unsplit _ member
  rw [Splits, not_and_or, not_lt, not_lt] at whole
  exact ⟨key ordering[boundary - 1], by omega⟩

/-- Two orders have the same items before such a boundary. -/
theorem IsOrdering.take_perm (isOrdering : IsOrdering key items ordering)
    (isOther : IsOrdering key items other)
    (unsplit : ∀ item ∈ items, ¬ Splits key items boundary item) :
    (ordering.take boundary).Perm (other.take boundary) := by
  have both : ordering.Perm other := isOrdering.perm.trans isOther.perm.symm
  by_cases outside : ordering.length < boundary
  · rw [List.take_of_length_le (le_of_lt outside),
      List.take_of_length_le (both.length_eq ▸ le_of_lt outside)]
    exact both
  · by_cases none : boundary = 0
    · rw [none, List.take_zero, List.take_zero]
    · obtain ⟨bound, rfl⟩ := isOrdering.exists_bound unsplit (Nat.pos_of_ne_zero none)
        (not_lt.mp outside)
      have taken := (take_countP isOrdering.sorted (IsOrdering.le_closed bound)).1
      have takenOther := (take_countP isOther.sorted (IsOrdering.le_closed bound)).1
      rw [isOrdering.perm.countP_eq] at taken
      rw [isOther.perm.countP_eq] at takenOther
      rw [taken, takenOther]
      exact both.filter _

theorem mem_of_mem_walk {orderings : Nat → List Item}
    (areOrderings : ∀ page, IsOrdering key items (orderings page)) {item : Item}
    (member : item ∈ walk limit pages orderings) : item ∈ items := by
  obtain ⟨page, _, onPage⟩ := List.mem_flatMap.mp member
  exact (areOrderings page).perm.mem_iff.mp (List.mem_of_mem_drop (List.mem_of_mem_take onPage))

/-- Where no boundary is inside a group, the pages are together the beginning of an order. -/
theorem walk_perm {orderings : Nat → List Item}
    (isOrdering : IsOrdering key items ordering)
    (areOrderings : ∀ page, IsOrdering key items (orderings page))
    (unsplit : ∀ page, ∀ item ∈ items, ¬ Splits key items (page * limit) item) (pages : Nat) :
    (walk limit pages orderings).Perm (ordering.take (pages * limit)) := by
  induction pages with
  | zero =>
    rw [Nat.zero_mul, List.take_zero]
    exact List.Perm.refl _
  | succ pages inductionHypothesis =>
    have own := areOrderings pages
    have before := inductionHypothesis.trans (isOrdering.take_perm own (unsplit pages))
    have whole : (orderings pages).take (pages * limit) ++ slice limit pages (orderings pages) =
        (orderings pages).take ((pages + 1) * limit) := by
      rw [slice, Nat.succ_mul, List.take_add]
    rw [walk, List.range_succ, List.flatMap_append, List.flatMap_singleton]
    refine (before.append_right _).trans ?_
    rw [whole]
    exact own.take_perm isOrdering (unsplit (pages + 1))

/-! ### A boundary inside a group -/

/-- Two neighbours of equal key may change places. -/
theorem IsOrdering.swap {front back : List Item} {first second : Item}
    (isOrdering : IsOrdering key items (front ++ first :: second :: back))
    (same : key first = key second) : IsOrdering key items (front ++ second :: first :: back) where
  perm := (List.Perm.append_left front (List.Perm.swap first second back)).trans isOrdering.perm
  sorted := by
    have keys : (front ++ second :: first :: back).map key =
        (front ++ first :: second :: back).map key := by
      simp only [List.map_append, List.map_cons, same]
    refine List.pairwise_map.mp (?_ : ((front ++ second :: first :: back).map key).Pairwise _)
    rw [keys]
    exact List.pairwise_map.mpr isOrdering.sorted

/-- An order in which a boundary inside a group parts two items of the group. -/
theorem exists_parted {item : Item} (split : Splits key items boundary item) :
    ∃ front first second back, front.length + 1 = boundary ∧ key first = key second ∧
      IsOrdering key items (front ++ first :: second :: back) := by
  have isOrdering := exists_ordering key items
  generalize Keyset.sorted key items = ordering at isOrdering
  obtain ⟨before, within⟩ := split
  have below := isOrdering.perm.countP_eq fun other => decide (key other < key item)
  have upTo := isOrdering.perm.countP_eq fun other => decide (key other ≤ key item)
  have bounded : (ordering.countP fun other => decide (key other ≤ key item)) ≤ ordering.length :=
    List.countP_le_length
  have insideLast : boundary - 1 < ordering.length := by omega
  have insideNext : boundary < ordering.length := by omega
  have notBelow := mt (accepts_getElem isOrdering.sorted
    (IsOrdering.lt_closed (key item)) insideLast).mp (by omega)
  have notAbove := (accepts_getElem isOrdering.sorted
    (IsOrdering.le_closed (key item)) insideNext).mpr (by omega)
  rw [decide_eq_true_eq] at notAbove notBelow
  have between : key ordering[boundary - 1] ≤ key ordering[boundary] :=
    List.pairwise_iff_getElem.mp isOrdering.sorted _ _ insideLast insideNext (by omega)
  refine ⟨ordering.take (boundary - 1), ordering[boundary - 1], ordering[boundary],
    ordering.drop (boundary + 1), ?_, ?_, ?_⟩
  · rw [List.length_take]
    omega
  · exact le_antisymm between (le_trans notAbove (not_lt.mp notBelow))
  · have next : ordering.drop boundary = ordering[boundary] :: ordering.drop (boundary + 1) :=
      List.drop_eq_getElem_cons insideNext
    have last : ordering.drop (boundary - 1) =
        ordering[boundary - 1] :: ordering.drop boundary := by
      rw [List.drop_eq_getElem_cons insideLast, Nat.sub_add_cancel (by omega)]
    rw [← next, ← last, List.take_append_drop]
    exact isOrdering

/-- A key that no two items share leaves no group to be split. -/
theorem not_splits_of_distinct {item : Item} (distinct : (items.map key).Nodup) :
    ¬ Splits key items boundary item := by
  intro split
  obtain ⟨front, first, second, back, _, same, isOrdering⟩ := exists_parted split
  have keys := (isOrdering.perm.map key).nodup_iff.mpr distinct
  rw [List.map_append, List.map_cons, List.map_cons] at keys
  obtain ⟨notLater, _⟩ := List.nodup_cons.mp (List.nodup_append.mp keys).2.1
  exact notLater (same ▸ List.mem_cons_self)

/-- A page before the boundary has nothing from after it. -/
theorem not_mem_page_before {front back : List Item} {first second : Item} {start : Nat}
    (nodup : (front ++ first :: second :: back).Nodup) (length : front.length + 1 = boundary)
    (before : start + limit ≤ boundary) :
    second ∉ ((front ++ first :: second :: back).drop start).take limit := by
  intro member
  have early : second ∈ (front ++ first :: second :: back).take (start + limit) := by
    rw [List.take_add]
    exact List.mem_append_right _ member
  have split : front ++ first :: second :: back = (front ++ [first]) ++ second :: back := by
    rw [List.append_assoc]
    rfl
  have exactly : (front ++ first :: second :: back).take boundary = front ++ [first] := by
    rw [split, ← length, List.take_left']
    rw [List.length_append, List.length_singleton]
  have inFront := (List.take_subset_take_left _ before) early
  rw [exactly] at inFront
  rw [split] at nodup
  exact (List.nodup_append.mp nodup).2.2 second inFront second List.mem_cons_self rfl

/-- A page after the boundary has nothing from before it. -/
theorem not_mem_page_after {front back : List Item} {first second : Item} {start : Nat}
    (nodup : (front ++ second :: first :: back).Nodup) (length : front.length + 1 = boundary)
    (after : boundary ≤ start) :
    second ∉ ((front ++ second :: first :: back).drop start).take limit := by
  intro member
  have late := List.drop_subset_drop_left _ after (List.mem_of_mem_take member)
  have split : front ++ second :: first :: back = (front ++ [second]) ++ first :: back := by
    rw [List.append_assoc]
    rfl
  have exactly : (front ++ second :: first :: back).drop boundary = first :: back := by
    rw [split, ← length, List.drop_left']
    rw [List.length_append, List.length_singleton]
  rw [exactly] at late
  rw [split] at nodup
  exact (List.nodup_append.mp nodup).2.2 second
    (List.mem_append_right _ (List.mem_singleton_self _))
    second late rfl

/-- If a boundary is inside a group, some walk skips an item. -/
theorem exists_skipped {item : Item} {page : Nat} (distinct : items.Nodup)
    (split : Splits key items (page * limit) item) (pages : Nat) :
    ∃ orderings : Nat → List Item, (∀ page, IsOrdering key items (orderings page)) ∧
      ∃ skipped ∈ items, skipped ∉ walk limit pages orderings := by
  obtain ⟨front, first, second, back, length, same, isOrdering⟩ := exists_parted split
  have swapped := isOrdering.swap same
  have nodup := isOrdering.perm.nodup_iff.mpr distinct
  refine ⟨fun request => if request < page then front ++ first :: second :: back
    else front ++ second :: first :: back, fun request => ?_, second, ?_, fun member => ?_⟩
  · dsimp only
    split
    · exact isOrdering
    · exact swapped
  · refine isOrdering.perm.mem_iff.mp (List.mem_append_right _ ?_)
    exact List.mem_cons_of_mem _ List.mem_cons_self
  · obtain ⟨request, _, onPage⟩ := List.mem_flatMap.mp member
    dsimp only at onPage
    by_cases early : request < page
    · rw [if_pos early, slice] at onPage
      refine not_mem_page_before nodup length ?_ onPage
      exact (Nat.succ_mul request limit).symm ▸ Nat.mul_le_mul_right limit early
    · rw [if_neg early, slice] at onPage
      refine not_mem_page_after (swapped.perm.nodup_iff.mpr distinct) length ?_ onPage
      exact Nat.mul_le_mul_right limit (not_lt.mp early)

end Orderings

/-- The walk has every item once, however the requests order them, exactly if no page boundary is
inside a group of equal keys. -/
theorem walk_perm_iff {items : List Item} {limit pages : Nat} (distinct : items.Nodup)
    (enough : items.length ≤ pages * limit) :
    (∀ orderings : Nat → List Item, (∀ page, IsOrdering key items (orderings page)) →
        (walk limit pages orderings).Perm items) ↔
      ∀ page, ∀ item ∈ items, ¬ Splits key items (page * limit) item := by
  constructor
  · intro exact page item _ split
    obtain ⟨orderings, areOrderings, skipped, member, missing⟩ :=
      exists_skipped distinct split pages
    exact missing ((exact orderings areOrderings).mem_iff.mpr member)
  · intro unsplit orderings areOrderings
    have isOrdering := exists_ordering key items
    have whole := walk_perm isOrdering areOrderings unsplit pages
    rw [List.take_of_length_le (isOrdering.perm.length_eq ▸ enough)] at whole
    exact whole.trans isOrdering.perm

end OffsetPages
