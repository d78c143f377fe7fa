/-
This file models what MongoDB holds of a JSON value that Mongoose saves as part of
a document.

Mongoose's `minimize` option, on unless a schema turns it off, drops the properties
whose value is an empty object; an array keeps its elements, empty objects as well.
The driver writes texts and keys as UTF-8, which replaces lone surrogates. What is
Mongoose's and the driver's own affair is a parameter: whether `minimize` goes into
the objects of an array, and what becomes of an object that is not taken for plain
data, one with a property such as `prototype`, `$__` or `_bsontype`.

A value is saved as it is exactly if none of this changes anything in it.
-/

import MessageManagement.Library.Json

namespace MessageManagement

variable {Number : Type}

/-- What is up to Mongoose and the driver: whether `minimize` goes into arrays, and what is read
back of an object they do not take for plain data: JSON, but not the object. -/
structure Saving (Number : Type) [JsNumber Number] where
  minimizesInArrays : Bool
  stored : List (JsString × Json Number) → Option (Json Number)
  stored_ne : ∀ fields, stored fields ≠ some (.object fields)
  stored_plain : ∀ fields value, stored fields = some value → value.Plain

/-- All objects are plain data. -/
def Saving.plain [JsNumber Number] : Saving Number where
  minimizesInArrays := true
  stored _ := none
  stored_ne _ stored := by cases stored
  stored_plain _ _ stored := by cases stored

def isEmptyObject : Json Number → Bool
  | .object [] => true
  | _ => false

/-- All keys are well-formed texts. -/
def haveWellFormedKeys (fields : List (JsString × Json Number)) : Bool :=
  fields.all fun field => isWellFormed field.1

/-- The properties under the keys that the driver writes. Of several that become one key, the last
is read back. -/
def writtenFields (fields : List (JsString × Json Number)) : List (JsString × Json Number) :=
  if haveWellFormedKeys fields then fields
  else Json.ofFields (fields.map fun field => (toWellFormed field.1, field.2))

section Saved

variable [JsNumber Number] (saving : Saving Number)

mutual

/-- A value as it is read back after it was saved; `minimizes` says whether empty objects are
dropped here. -/
def savedJson (minimizes : Bool) : Json Number → Json Number
  | .null => .null
  | .bool value => .bool value
  | .number value => .number value
  | .string value => .string (toWellFormed value)
  | .array elements => .array (savedElements (minimizes && saving.minimizesInArrays) elements)
  | .object fields =>
    match saving.stored fields with
    | some value => value
    | none => .object (writtenFields (savedFields minimizes fields))

def savedElements (minimizes : Bool) : List (Json Number) → List (Json Number)
  | [] => []
  | value :: rest => savedJson minimizes value :: savedElements minimizes rest

/-- The properties that are kept. -/
def savedFields (minimizes : Bool) :
    List (JsString × Json Number) → List (JsString × Json Number)
  | [] => []
  | (key, value) :: rest =>
    if minimizes && isEmptyObject (savedJson minimizes value) then savedFields minimizes rest
    else (key, savedJson minimizes value) :: savedFields minimizes rest

end

/-- What is saved of a property with this value, if it is not dropped. -/
def savedValue (value : Json Number) : Option (Json Number) :=
  if isEmptyObject (savedJson saving true value) then none else some (savedJson saving true value)

mutual

/-- In the value, all texts and keys are well-formed, no property is an empty object that is
dropped, and all objects are plain data. -/
def isSavedAsIs (minimizes : Bool) : Json Number → Bool
  | .null => true
  | .bool _ => true
  | .number _ => true
  | .string value => isWellFormed value
  | .array elements => elementsSavedAsIs (minimizes && saving.minimizesInArrays) elements
  | .object fields =>
    (saving.stored fields).isNone && haveWellFormedKeys fields && fieldsSavedAsIs minimizes fields

def elementsSavedAsIs (minimizes : Bool) : List (Json Number) → Bool
  | [] => true
  | value :: rest => isSavedAsIs minimizes value && elementsSavedAsIs minimizes rest

def fieldsSavedAsIs (minimizes : Bool) : List (JsString × Json Number) → Bool
  | [] => true
  | (_, value) :: rest =>
    !(minimizes && isEmptyObject value) && isSavedAsIs minimizes value &&
      fieldsSavedAsIs minimizes rest

end

/-- The same of metadata, which is a property itself. -/
def isMetadataSavedAsIs (metadata : Option (Json Number)) : Bool :=
  metadata.all fun value => !isEmptyObject value && isSavedAsIs saving true value

end Saved

/-! ### When a value is saved as it is -/

/-- All keys that are read back are well-formed. -/
theorem haveWellFormedKeys_writtenFields (fields : List (JsString × Json Number)) :
    haveWellFormedKeys (writtenFields fields) = true := by
  rw [writtenFields]
  split
  · assumption
  · rw [haveWellFormedKeys, List.all_eq_true]
    intro field member
    have written := Json.mem_keys_ofFields (List.mem_map_of_mem member)
    rw [List.map_map] at written
    obtain ⟨original, _, same⟩ := List.mem_map.mp written
    rw [← same]
    exact isWellFormed_toWellFormed original.1

section AsIs

variable [JsNumber Number] {saving : Saving Number}

theorem keys_savedFields (minimizes : Bool) (fields : List (JsString × Json Number)) :
    ((savedFields saving minimizes fields).map Prod.fst).Sublist (fields.map Prod.fst) := by
  induction fields with
  | nil => exact List.Sublist.refl _
  | cons field rest inductionHypothesis =>
    obtain ⟨key, value⟩ := field
    rw [savedFields]
    split
    · exact List.Sublist.cons _ inductionHypothesis
    · exact List.Sublist.cons_cons _ inductionHypothesis

theorem length_savedFields (minimizes : Bool) (fields : List (JsString × Json Number)) :
    (savedFields saving minimizes fields).length ≤ fields.length := by
  have shorter : ((savedFields saving minimizes fields).map Prod.fst).length ≤
      (fields.map Prod.fst).length := (keys_savedFields minimizes fields).length_le
  rw [List.length_map, List.length_map] at shorter
  exact shorter

/-- Saving keeps the properties exactly if the driver keeps the keys and `minimize` the rest. -/
theorem writtenFields_savedFields_iff {minimizes : Bool}
    {fields : List (JsString × Json Number)} :
    writtenFields (savedFields saving minimizes fields) = fields ↔
      haveWellFormedKeys fields = true ∧ savedFields saving minimizes fields = fields := by
  constructor
  · intro same
    have wellFormed : haveWellFormedKeys fields = true := by
      rw [← same]
      exact haveWellFormedKeys_writtenFields _
    have kept : haveWellFormedKeys (savedFields saving minimizes fields) = true := by
      rw [haveWellFormedKeys, List.all_eq_true] at wellFormed ⊢
      intro field member
      obtain ⟨original, isOriginal, sameKey⟩ := List.mem_map.mp
        ((keys_savedFields minimizes fields).subset (List.mem_map_of_mem member))
      rw [← sameKey]
      exact wellFormed original isOriginal
    rw [writtenFields, if_pos kept] at same
    exact ⟨wellFormed, same⟩
  · rintro ⟨wellFormed, same⟩
    rw [same, writtenFields, if_pos wellFormed]

mutual

theorem savedJson_eq_self_iff : ∀ {minimizes : Bool} {value : Json Number},
    savedJson saving minimizes value = value ↔ isSavedAsIs saving minimizes value = true
  | _, .null => by
    rw [savedJson, isSavedAsIs]
    exact iff_of_true rfl rfl
  | _, .bool _ => by
    rw [savedJson, isSavedAsIs]
    exact iff_of_true rfl rfl
  | _, .number _ => by
    rw [savedJson, isSavedAsIs]
    exact iff_of_true rfl rfl
  | _, .string value => by
    rw [savedJson, isSavedAsIs, Json.string.injEq]
    exact toWellFormed_eq_self_iff
  | _, .array elements => by
    rw [savedJson, isSavedAsIs, Json.array.injEq]
    exact savedElements_eq_self_iff
  | _, .object fields => by
    rw [savedJson, isSavedAsIs, Bool.and_eq_true, Bool.and_eq_true]
    cases stored : saving.stored fields with
    | some value =>
      refine iff_of_false (fun same => ?_) (fun holds => Bool.false_ne_true holds.1.1)
      have same : value = .object fields := same
      rw [same] at stored
      exact saving.stored_ne fields stored
    | none =>
      rw [Json.object.injEq, writtenFields_savedFields_iff, savedFields_eq_self_iff]
      exact ⟨fun kept => ⟨⟨rfl, kept.1⟩, kept.2⟩, fun holds => ⟨holds.1.2, holds.2⟩⟩

theorem savedElements_eq_self_iff : ∀ {minimizes : Bool} {elements : List (Json Number)},
    savedElements saving minimizes elements = elements ↔
      elementsSavedAsIs saving minimizes elements = true
  | _, [] => by
    rw [savedElements, elementsSavedAsIs]
    exact iff_of_true rfl rfl
  | _, value :: rest => by
    rw [savedElements, elementsSavedAsIs, List.cons.injEq, Bool.and_eq_true,
      savedJson_eq_self_iff, savedElements_eq_self_iff]

theorem savedFields_eq_self_iff : ∀ {minimizes : Bool} {fields : List (JsString × Json Number)},
    savedFields saving minimizes fields = fields ↔ fieldsSavedAsIs saving minimizes fields = true
  | _, [] => by
    rw [savedFields, fieldsSavedAsIs]
    exact iff_of_true rfl rfl
  | minimizes, (key, value) :: rest => by
    rw [savedFields, fieldsSavedAsIs]
    have shorter : (savedFields saving minimizes rest).length ≤ rest.length :=
      length_savedFields minimizes rest
    by_cases dropped : (minimizes && isEmptyObject (savedJson saving minimizes value)) = true
    · rw [if_pos dropped, Bool.and_eq_true, Bool.and_eq_true, Bool.not_eq_true']
      refine iff_of_false (fun same => ?_) ?_
      · rw [same, List.length_cons] at shorter
        omega
      · rintro ⟨⟨nonempty, asIs⟩, _⟩
        rw [savedJson_eq_self_iff.mpr asIs, nonempty] at dropped
        exact Bool.false_ne_true dropped
    · rw [if_neg dropped, List.cons.injEq, Prod.mk.injEq, savedJson_eq_self_iff,
        savedFields_eq_self_iff, Bool.and_eq_true, Bool.and_eq_true, Bool.not_eq_true']
      rw [Bool.not_eq_true] at dropped
      constructor
      · rintro ⟨⟨_, asIs⟩, others⟩
        rw [savedJson_eq_self_iff.mpr asIs] at dropped
        exact ⟨⟨dropped, asIs⟩, others⟩
      · rintro ⟨⟨_, asIs⟩, others⟩
        exact ⟨⟨rfl, asIs⟩, others⟩

end

/-- What is saved of metadata is the metadata exactly if all of it is saved as it is. -/
theorem bind_savedValue_eq_self_iff {metadata : Option (Json Number)} :
    metadata.bind (savedValue saving) = metadata ↔
      isMetadataSavedAsIs saving metadata = true := by
  cases metadata with
  | none => exact iff_of_true rfl rfl
  | some value =>
    rw [Option.bind_some, isMetadataSavedAsIs, Option.all_some, Bool.and_eq_true,
      Bool.not_eq_true', savedValue, ← savedJson_eq_self_iff]
    constructor
    · intro kept
      split at kept
      · cases kept
      · rename_i nonempty
        have same := Option.some.inj kept
        rw [same, Bool.not_eq_true] at nonempty
        exact ⟨nonempty, same⟩
    · rintro ⟨nonempty, same⟩
      rw [same, nonempty, if_neg Bool.false_ne_true]

end AsIs

/-! ### What is saved of JSON is JSON -/

section Plain

variable [JsNumber Number] {saving : Saving Number}

theorem plainFields_map_toWellFormed {fields : List (JsString × Json Number)}
    (plain : Json.PlainFields fields) :
    Json.PlainFields (fields.map fun field => (toWellFormed field.1, field.2)) := by
  induction fields with
  | nil => exact trivial
  | cons field rest inductionHypothesis => exact ⟨plain.1, inductionHypothesis plain.2⟩

theorem plain_writtenFields {fields : List (JsString × Json Number)}
    (plain : (Json.object fields).Plain) : (Json.object (writtenFields fields)).Plain := by
  rw [writtenFields]
  split
  · exact plain
  · rw [Json.Plain] at plain
    exact Json.plain_ofFields (plainFields_map_toWellFormed plain.2)

mutual

theorem plain_savedJson : ∀ {minimizes : Bool} {value : Json Number}, value.Plain →
    (savedJson saving minimizes value).Plain
  | _, .null, plain => plain
  | _, .bool _, plain => plain
  | _, .number _, plain => plain
  | _, .string _, _ => trivial
  | _, .array elements, plain => by
    rw [savedJson, Json.Plain]
    exact plainElements_savedElements plain
  | minimizes, .object fields, plain => by
    rw [Json.Plain] at plain
    rw [savedJson]
    cases stored : saving.stored fields with
    | some value => exact saving.stored_plain fields value stored
    | none =>
      refine plain_writtenFields ?_
      rw [Json.Plain]
      exact ⟨plain.1.sublist (keys_savedFields minimizes fields),
        plainFields_savedFields plain.2⟩

theorem plainElements_savedElements : ∀ {minimizes : Bool} {elements : List (Json Number)},
    Json.PlainElements elements → Json.PlainElements (savedElements saving minimizes elements)
  | _, [], plain => plain
  | _, value :: rest, plain => by
    rw [savedElements]
    exact ⟨plain_savedJson plain.1, plainElements_savedElements plain.2⟩

theorem plainFields_savedFields : ∀ {minimizes : Bool} {fields : List (JsString × Json Number)},
    Json.PlainFields fields → Json.PlainFields (savedFields saving minimizes fields)
  | _, [], plain => plain
  | _, (key, value) :: rest, plain => by
    rw [Json.PlainFields] at plain
    rw [savedFields]
    split
    · exact plainFields_savedFields plain.2
    · exact ⟨plain_savedJson plain.1, plainFields_savedFields plain.2⟩

end

theorem plain_savedValue {metadata : Option (Json Number)}
    (plain : ∀ value, metadata = some value → value.Plain) (saved : Json Number)
    (same : metadata.bind (savedValue saving) = some saved) : saved.Plain := by
  obtain ⟨value, isValue, kept⟩ := Option.bind_eq_some_iff.mp same
  rw [savedValue, Option.ite_none_left_eq_some, Option.some_inj] at kept
  rw [← kept.2]
  exact plain_savedJson (plain value isValue)

end Plain

end MessageManagement
