/-
This file is about a topic: append-only logs, one a partition, read by a consumer
group that remembers one offset for each.

A record is settled once some reader has dealt with it, whatever that means to
the reader; settled records are never unsettled. A group that only passes settled
records leaves every other one to be read again: this is the whole argument of
at-least-once delivery.
-/

import Mathlib

/-- The records of each partition, the offset up to which the group has passed each, and which
offsets are settled. Only offsets that exist are. -/
structure Topic (Record : Type) where
  records : Nat → List Record
  passed : Nat → Nat
  settled : Nat → Nat → Bool
  known : ∀ partition offset, settled partition offset = true →
    offset < (records partition).length

namespace Topic

variable {Record : Type}

def empty : Topic Record where
  records _ := []
  passed _ := 0
  settled _ _ := false
  known _ _ settled := nomatch settled

/-! ### Operations -/

/-- The record at an offset. -/
def read (topic : Topic Record) (partition offset : Nat) : Option Record :=
  (topic.records partition)[offset]?

def append (partition : Nat) (record : Record) (topic : Topic Record) : Topic Record where
  records := Function.update topic.records partition (topic.records partition ++ [record])
  passed := topic.passed
  settled := topic.settled
  known other offset settled := by
    have bound := topic.known other offset settled
    by_cases same : other = partition
    · rw [same, Function.update_self, List.length_append]
      exact Nat.lt_add_right _ (same ▸ bound)
    · rw [Function.update_of_ne same]
      exact bound

/-- Settle the record at an offset, if there is one. -/
def settle (partition offset : Nat) (topic : Topic Record) : Topic Record where
  records := topic.records
  passed := topic.passed
  settled other position :=
    topic.settled other position ||
      (decide (other = partition ∧ position = offset) &&
        decide (offset < (topic.records partition).length))
  known other position settled := by
    rw [Bool.or_eq_true, Bool.and_eq_true, decide_eq_true_eq, decide_eq_true_eq] at settled
    rcases settled with earlier | ⟨⟨rfl, rfl⟩, bound⟩
    · exact topic.known other position earlier
    · exact bound

/-- Move the group's offset. -/
def pass (partition offset : Nat) (topic : Topic Record) : Topic Record :=
  { topic with passed := Function.update topic.passed partition offset }

theorem records_append (topic : Topic Record) (partition : Nat) (record : Record) :
    (topic.append partition record).records =
      Function.update topic.records partition (topic.records partition ++ [record]) := rfl

theorem settled_settle_eq (topic : Topic Record) (partition offset other position : Nat) :
    (topic.settle partition offset).settled other position =
      (topic.settled other position ||
        (decide (other = partition ∧ position = offset) &&
          decide (offset < (topic.records partition).length))) := rfl

theorem passed_pass (topic : Topic Record) (partition offset : Nat) :
    (topic.pass partition offset).passed = Function.update topic.passed partition offset := rfl

/-! ### What is left to read -/

/-- Every record below an offset is settled. -/
def SettledBelow (partition offset : Nat) (topic : Topic Record) : Prop :=
  ∀ position, position < offset → topic.settled partition position = true

/-- Every record the group has passed is settled. -/
def PassesSettled (topic : Topic Record) : Prop :=
  ∀ partition, topic.SettledBelow partition (topic.passed partition)

/-- Some record that is selected is not settled. -/
def Unsettled (selects : Record → Prop) (topic : Topic Record) : Prop :=
  ∃ partition offset record, topic.read partition offset = some record ∧ selects record ∧
    topic.settled partition offset = false

/-- Some record that is selected is not passed. -/
def Unpassed (selects : Record → Prop) (topic : Topic Record) : Prop :=
  ∃ partition offset record, topic.read partition offset = some record ∧ selects record ∧
    topic.passed partition ≤ offset

theorem PassesSettled.empty : (empty : Topic Record).PassesSettled :=
  fun _ _ below => absurd below (Nat.not_lt_zero _)

theorem PassesSettled.append {topic : Topic Record} (sound : topic.PassesSettled)
    (partition : Nat) (record : Record) : (topic.append partition record).PassesSettled :=
  sound

theorem PassesSettled.settle {topic : Topic Record} (sound : topic.PassesSettled)
    (partition offset : Nat) : (topic.settle partition offset).PassesSettled :=
  fun other position below => Bool.or_eq_true_iff.mpr (Or.inl (sound other position below))

theorem PassesSettled.pass {topic : Topic Record} (sound : topic.PassesSettled)
    {partition offset : Nat} (settled : topic.SettledBelow partition offset) :
    (topic.pass partition offset).PassesSettled := by
  intro other position below
  rw [passed_pass] at below
  by_cases same : other = partition
  · rw [same, Function.update_self] at below
    exact same ▸ settled position below
  · rw [Function.update_of_ne same] at below
    exact sound other position below

/-- What is not settled is not passed. -/
theorem Unsettled.unpassed {topic : Topic Record} {selects : Record → Prop}
    (sound : topic.PassesSettled) (unsettled : topic.Unsettled selects) :
    topic.Unpassed selects := by
  obtain ⟨partition, offset, record, found, selected, settled⟩ := unsettled
  refine ⟨partition, offset, record, found, selected, ?_⟩
  by_contra below
  rw [not_le] at below
  rw [sound partition offset below] at settled
  exact Bool.noConfusion settled

/-! ### The operations and what is left -/

theorem settled_settle {topic : Topic Record} {partition offset : Nat} {record : Record}
    (found : topic.read partition offset = some record) :
    (topic.settle partition offset).settled partition offset = true := by
  have bound : offset < (topic.records partition).length :=
    (List.getElem?_eq_some_iff.mp found).1
  rw [settled_settle_eq, Bool.or_eq_true, Bool.and_eq_true, decide_eq_true_eq, decide_eq_true_eq]
  exact Or.inr ⟨⟨rfl, rfl⟩, bound⟩

theorem settled_mono {topic : Topic Record} {partition offset other position : Nat}
    (settled : topic.settled other position = true) :
    (topic.settle partition offset).settled other position = true :=
  Bool.or_eq_true_iff.mpr (Or.inl settled)

theorem read_append {topic : Topic Record} {partition other offset : Nat} {record found : Record}
    (stored : topic.read other offset = some found) :
    (topic.append partition record).read other offset = some found := by
  rw [read] at stored ⊢
  rw [records_append]
  by_cases same : other = partition
  · rw [same] at stored ⊢
    rw [Function.update_self, List.getElem?_append_left (List.getElem?_eq_some_iff.mp stored).1]
    exact stored
  · rw [Function.update_of_ne same]
    exact stored

theorem read_append_last (topic : Topic Record) (partition : Nat) (record : Record) :
    (topic.append partition record).read partition (topic.records partition).length =
      some record := by
  rw [read, records_append, Function.update_self, List.getElem?_concat_length]

/-- An appended record is there, at an offset that nothing has settled. -/
theorem unsettled_append {topic : Topic Record} {selects : Record → Prop} {record : Record}
    (selected : selects record) (partition : Nat) :
    (topic.append partition record).Unsettled selects := by
  refine ⟨partition, (topic.records partition).length, record,
    topic.read_append_last partition record, selected, ?_⟩
  rw [← Bool.not_eq_true]
  exact fun settled => absurd (topic.known _ _ settled) (lt_irrefl _)

theorem Unsettled.append {topic : Topic Record} {selects : Record → Prop}
    (unsettled : topic.Unsettled selects) (partition : Nat) (record : Record) :
    (topic.append partition record).Unsettled selects := by
  obtain ⟨other, offset, kept, found, selected, settled⟩ := unsettled
  exact ⟨other, offset, kept, read_append found, selected, settled⟩

/-- Settling a record takes care of that one only. -/
theorem Unsettled.settle {topic : Topic Record} {selects : Record → Prop}
    (unsettled : topic.Unsettled selects) {partition offset : Nat} {record : Record}
    (found : topic.read partition offset = some record) :
    (topic.settle partition offset).Unsettled selects ∨ selects record := by
  obtain ⟨other, position, kept, stored, selected, settled⟩ := unsettled
  by_cases same : other = partition ∧ position = offset
  · rw [same.1, same.2, found, Option.some_inj] at stored
    exact Or.inr (stored ▸ selected)
  · refine Or.inl ⟨other, position, kept, stored, selected, ?_⟩
    rw [settled_settle_eq, settled, decide_eq_false same]
    rfl

/-- What was read and what was settled stays so. -/
structure Grows (earlier later : Topic Record) : Prop where
  read : ∀ partition offset record, earlier.read partition offset = some record →
    later.read partition offset = some record
  settled : ∀ partition offset, earlier.settled partition offset = true →
    later.settled partition offset = true

theorem Grows.refl (topic : Topic Record) : topic.Grows topic :=
  ⟨fun _ _ _ found => found, fun _ _ settled => settled⟩

theorem Grows.trans {first second third : Topic Record} (before : first.Grows second)
    (after : second.Grows third) : first.Grows third where
  read partition offset record found :=
    after.read partition offset record (before.read partition offset record found)
  settled partition offset settled :=
    after.settled partition offset (before.settled partition offset settled)

theorem grows_append (topic : Topic Record) (partition : Nat) (record : Record) :
    topic.Grows (topic.append partition record) :=
  ⟨fun _ _ _ found => read_append found, fun _ _ settled => settled⟩

theorem grows_settle (topic : Topic Record) (partition offset : Nat) :
    topic.Grows (topic.settle partition offset) :=
  ⟨fun _ _ _ found => found, fun _ _ settled => settled_mono settled⟩

theorem grows_pass (topic : Topic Record) (partition offset : Nat) :
    topic.Grows (topic.pass partition offset) :=
  ⟨fun _ _ _ found => found, fun _ _ settled => settled⟩

theorem SettledBelow.grows {earlier later : Topic Record} {partition offset : Nat}
    (settled : earlier.SettledBelow partition offset) (grows : earlier.Grows later) :
    later.SettledBelow partition offset :=
  fun position below => grows.settled partition position (settled position below)

/-- Settling the record above moves the bound by one. -/
theorem SettledBelow.succ {topic : Topic Record} {partition offset : Nat} {record : Record}
    (settled : topic.SettledBelow partition offset)
    (found : topic.read partition offset = some record) :
    (topic.settle partition offset).SettledBelow partition (offset + 1) := by
  intro position below
  rcases Nat.lt_succ_iff_lt_or_eq.mp below with earlier | rfl
  · exact settled_mono (settled position earlier)
  · exact settled_settle found

/-- What every record of a topic meets, an appended one included. -/
theorem forall_read_append {topic : Topic Record} {meets : Record → Prop}
    (all : ∀ partition offset record, topic.read partition offset = some record → meets record)
    {partition : Nat} {record : Record} (met : meets record) (other offset : Nat) (found : Record)
    (stored : (topic.append partition record).read other offset = some found) : meets found := by
  rw [read, records_append] at stored
  by_cases same : other = partition
  · rw [same, Function.update_self] at stored
    rcases List.mem_append.mp (List.mem_of_getElem? stored) with earlier | last
    · obtain ⟨position, before⟩ := List.getElem?_of_mem earlier
      exact all partition position found before
    · exact List.mem_singleton.mp last ▸ met
  · rw [Function.update_of_ne same] at stored
    exact all other offset found stored

end Topic
