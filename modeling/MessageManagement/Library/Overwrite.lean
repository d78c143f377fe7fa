/-
This file is about stores that are written one whole entry at a time: a write
replaces what its key had.

When the writes never disagree on a key, what they leave depends only on which
entries were written, not on their order or how often. That is all the file
proves.
-/

import Mathlib

namespace Overwrite

variable {Key Value : Type} [DecidableEq Key]

/-- Replace what a key has. -/
def write (entry : Key × Value) (store : Key → Option Value) : Key → Option Value :=
  Function.update store entry.1 (some entry.2)

/-- The store that writing the entries in order leaves. -/
def writeAll (entries : List (Key × Value)) : Key → Option Value :=
  entries.foldl (fun store entry => write entry store) fun _ => none

/-- No key is written with two values. -/
def Consistent (entries : List (Key × Value)) : Prop :=
  ∀ first ∈ entries, ∀ second ∈ entries, first.1 = second.1 → first.2 = second.2

theorem writeAll_concat (entries : List (Key × Value)) (entry : Key × Value) :
    writeAll (entries ++ [entry]) = write entry (writeAll entries) := by
  rw [writeAll, List.foldl_append, List.foldl_cons, List.foldl_nil]
  rfl

/-- Whatever a store has was written. -/
theorem mem_of_writeAll {entries : List (Key × Value)} {key : Key} {value : Value}
    (stored : writeAll entries key = some value) : (key, value) ∈ entries := by
  induction entries using List.reverseRecOn with
  | nil => exact nomatch stored
  | append_singleton entries entry inductionHypothesis =>
    rw [writeAll_concat, write] at stored
    by_cases same : key = entry.1
    · rw [same, Function.update_self, Option.some_inj] at stored
      rw [same, ← stored]
      exact List.mem_append_right _ List.mem_cons_self
    · rw [Function.update_of_ne same] at stored
      exact List.mem_append_left _ (inductionHypothesis stored)

/-- A key that was written is never empty again. -/
theorem writeAll_ne_none {entries : List (Key × Value)} {entry : Key × Value}
    (member : entry ∈ entries) : writeAll entries entry.1 ≠ none := by
  induction entries using List.reverseRecOn with
  | nil => exact nomatch member
  | append_singleton entries last inductionHypothesis =>
    rw [writeAll_concat, write]
    by_cases same : entry.1 = last.1
    · rw [same, Function.update_self]
      exact Option.some_ne_none _
    · rw [Function.update_of_ne same]
      refine inductionHypothesis ?_
      rcases List.mem_append.mp member with earlier | final
      · exact earlier
      · rw [List.mem_singleton.mp final] at same
        exact absurd rfl same

/-- After consistent writes a store has exactly what was written. -/
theorem writeAll_eq_some {entries : List (Key × Value)} (consistent : Consistent entries)
    {key : Key} {value : Value} : writeAll entries key = some value ↔ (key, value) ∈ entries := by
  constructor
  · exact mem_of_writeAll
  · intro member
    obtain ⟨last, stored⟩ := Option.ne_none_iff_exists'.mp (writeAll_ne_none member)
    have same : last = value :=
      consistent (key, last) (mem_of_writeAll stored) (key, value) member rfl
    rw [← same]
    exact stored

/-- What consistent writes leave depends only on which entries were written. -/
theorem writeAll_eq_of_mem_iff {first second : List (Key × Value)} (consistent : Consistent first)
    (same : ∀ entry, entry ∈ first ↔ entry ∈ second) : writeAll first = writeAll second := by
  have consistentSecond : Consistent second := fun entry member other otherMember =>
    consistent entry ((same entry).mpr member) other ((same other).mpr otherMember)
  funext key
  refine Option.ext fun value => ?_
  rw [writeAll_eq_some consistent, writeAll_eq_some consistentSecond, same]

end Overwrite
