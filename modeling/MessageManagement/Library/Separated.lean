/-
This file is about texts in which entries stand between separators, with blanks
around them: reading one splits it, trims the parts and drops those that are empty.

Joining the entries that were read gives the normal form of the text. It is read as
the text is, so whoever reads one reads the other.
-/

import Mathlib

namespace Separated

variable {Item : Type}

/-- Blanks are dropped at both ends. -/
def trim (isBlank : Item → Bool) (text : List Item) : List Item :=
  ((text.dropWhile isBlank).reverse.dropWhile isBlank).reverse

section Trim

variable {isBlank : Item → Bool} {text : List Item}

theorem trim_eq (isBlank : Item → Bool) (text : List Item) :
    trim isBlank text = (text.dropWhile isBlank).rdropWhile isBlank := rfl

theorem mem_of_mem_trim {item : Item} (member : item ∈ trim isBlank text) : item ∈ text := by
  rw [trim_eq] at member
  exact (List.dropWhile_sublist isBlank).subset ((List.rdropWhile_prefix isBlank _).subset member)

theorem dropWhile_trim : (trim isBlank text).dropWhile isBlank = trim isBlank text := by
  rw [trim_eq, List.dropWhile_eq_self_iff]
  intro positive
  -- what is left at the end begins as it did
  have begins := List.rdropWhile_prefix isBlank (text.dropWhile isBlank)
  have longer := lt_of_lt_of_le positive begins.length_le
  have unblank := List.dropWhile_get_zero_not isBlank text longer
  rw [begins.getElem positive]
  exact unblank

theorem trim_trim : trim isBlank (trim isBlank text) = trim isBlank text := by
  rw [trim_eq isBlank (trim isBlank text), dropWhile_trim, trim_eq, List.rdropWhile_idempotent]

end Trim

variable [DecidableEq Item]

def entries (separator : Item) (isBlank : Item → Bool) (text : List Item) : List (List Item) :=
  ((text.splitOn separator).map (trim isBlank)).filter fun entry => !entry.isEmpty

def join (separator : Item) (entries : List (List Item)) : List Item :=
  [separator].intercalate entries

/-- What is read as one entry. -/
structure IsEntry (separator : Item) (isBlank : Item → Bool) (entry : List Item) : Prop where
  ne_nil : entry ≠ []
  trimmed : trim isBlank entry = entry
  notMem : separator ∉ entry

variable {separator : Item} {isBlank : Item → Bool} {text : List Item}

theorem notMem_of_mem_splitOn {part : List Item} (member : part ∈ text.splitOn separator) :
    separator ∉ part := by
  induction text generalizing part with
  | nil =>
    rw [List.splitOn_nil, List.mem_singleton] at member
    rw [member]
    exact List.not_mem_nil
  | cons first rest inductionHypothesis =>
    rw [List.splitOn_cons_eq_if_modifyHead] at member
    split at member
    · rcases List.mem_cons.mp member with rfl | member
      · exact List.not_mem_nil
      · exact inductionHypothesis member
    · rename_i different
      obtain ⟨head, tail, split⟩ := List.exists_cons_of_ne_nil (List.splitOn_ne_nil separator rest)
      rw [split, List.modifyHead_cons] at member
      rcases List.mem_cons.mp member with rfl | member
      · rw [List.mem_cons, not_or]
        refine ⟨fun same => different (beq_iff_eq.mpr same.symm), inductionHypothesis ?_⟩
        rw [split]
        exact List.mem_cons_self
      · refine inductionHypothesis ?_
        rw [split]
        exact List.mem_cons_of_mem _ member

theorem isEntry_of_mem_entries {entry : List Item}
    (member : entry ∈ entries separator isBlank text) : IsEntry separator isBlank entry := by
  obtain ⟨isTrimmed, nonempty⟩ := List.mem_filter.mp member
  obtain ⟨part, isPart, rfl⟩ := List.mem_map.mp isTrimmed
  refine ⟨fun empty => ?_, trim_trim, fun inTrimmed => ?_⟩
  · rw [empty] at nonempty
    exact Bool.false_ne_true nonempty
  · exact notMem_of_mem_splitOn isPart (mem_of_mem_trim inTrimmed)

/-- Entries that are joined are read again. -/
theorem entries_join {parts : List (List Item)}
    (areEntries : ∀ entry ∈ parts, IsEntry separator isBlank entry) :
    entries separator isBlank (join separator parts) = parts := by
  by_cases empty : parts = []
  · rw [empty]
    rfl
  · rw [entries, join, List.splitOn_intercalate separator
      (fun entry member => (areEntries entry member).notMem) empty]
    have trimmed : parts.map (trim isBlank) = parts := by
      conv_rhs => rw [← List.map_id parts]
      exact List.map_congr_left fun entry member => (areEntries entry member).trimmed
    rw [trimmed, List.filter_eq_self]
    intro entry member
    rw [Bool.not_eq_true', List.isEmpty_eq_false_iff]
    exact (areEntries entry member).ne_nil

/-- The normal form of a text is read as the text is. -/
theorem entries_join_entries (text : List Item) :
    entries separator isBlank (join separator (entries separator isBlank text)) =
      entries separator isBlank text :=
  entries_join fun _ member => isEntry_of_mem_entries member

end Separated
