/-
This file builds a collection of documents under distinct keys, with the
single-document atomic operations of a document store: insert under a fresh
key, update the documents a filter selects, find and update the one with the
least key, delete.

A key stays known after its document is deleted, so that a key can be used for
one document only over the whole life of the collection. A document is read
through `find`, and every operation comes with the one lemma that says what
`find` answers after it.
-/

import Mathlib

/-- Documents under distinct keys. `keys` are all keys ever inserted, the oldest first. -/
structure Collection (Key Doc : Type) where
  keys : List Key
  find : Key → Option Doc
  distinct : keys.Nodup
  known : ∀ key, find key ≠ none → key ∈ keys

namespace Collection

variable {Key Doc : Type}

/-- The collection without documents. -/
def empty : Collection Key Doc where
  keys := []
  find _ := none
  distinct := List.nodup_nil
  known _ found := absurd rfl found

@[simp]
theorem find_empty (key : Key) : (empty : Collection Key Doc).find key = none := rfl

theorem mem_keys_of_find {collection : Collection Key Doc} {key : Key} {doc : Doc}
    (found : collection.find key = some doc) : key ∈ collection.keys :=
  collection.known key (by rw [found]; exact Option.some_ne_none doc)

theorem find_eq_none {collection : Collection Key Doc} {key : Key}
    (fresh : key ∉ collection.keys) : collection.find key = none := by
  by_contra found
  exact fresh (collection.known key found)

/-! ### Updates -/

/-- Rewrite every document by a function of its key; a document rewritten to `none` is
deleted. All the updates below are cases of it. -/
def rewrite (collection : Collection Key Doc) (change : Key → Doc → Option Doc) :
    Collection Key Doc where
  keys := collection.keys
  find key := (collection.find key).bind (change key)
  distinct := collection.distinct
  known key found := by
    refine collection.known key fun absent => found ?_
    rw [absent, Option.bind_none]

/-- Update every document the filter selects. -/
def updateMany (collection : Collection Key Doc) (filter : Key → Doc → Bool)
    (update : Doc → Doc) : Collection Key Doc :=
  collection.rewrite fun key doc => some (if filter key doc then update doc else doc)

@[simp]
theorem keys_updateMany (collection : Collection Key Doc) (filter : Key → Doc → Bool)
    (update : Doc → Doc) : (collection.updateMany filter update).keys = collection.keys := rfl

theorem find_updateMany (collection : Collection Key Doc) (filter : Key → Doc → Bool)
    (update : Doc → Doc) (key : Key) :
    (collection.updateMany filter update).find key =
      (collection.find key).map fun doc => if filter key doc then update doc else doc := by
  show (collection.find key).bind _ = _
  cases collection.find key with
  | none => rfl
  | some doc => rfl

variable [DecidableEq Key]

/-- Insert a document under a key that was never used. -/
def insert (collection : Collection Key Doc) (key : Key) (doc : Doc)
    (fresh : key ∉ collection.keys) : Collection Key Doc where
  keys := collection.keys ++ [key]
  find other := if other = key then some doc else collection.find other
  distinct := by
    rw [List.nodup_append]
    refine ⟨collection.distinct, List.nodup_singleton key, ?_⟩
    intro first member second last same
    rw [List.mem_singleton] at last
    exact fresh (last ▸ same ▸ member)
  known other found := by
    by_cases same : other = key
    · rw [same]
      exact List.mem_append_right _ List.mem_cons_self
    · rw [if_neg same] at found
      exact List.mem_append_left _ (collection.known other found)

@[simp]
theorem keys_insert (collection : Collection Key Doc) (key : Key) (doc : Doc)
    (fresh : key ∉ collection.keys) :
    (collection.insert key doc fresh).keys = collection.keys ++ [key] := rfl

@[simp]
theorem find_insert (collection : Collection Key Doc) (key other : Key) (doc : Doc)
    (fresh : key ∉ collection.keys) :
    (collection.insert key doc fresh).find other =
      if other = key then some doc else collection.find other := rfl

/-- Update the document under a key when the filter accepts it; the flag says whether it
did. -/
def updateOne (collection : Collection Key Doc) (key : Key) (filter : Doc → Bool)
    (update : Doc → Doc) : Bool × Collection Key Doc :=
  ((collection.find key).any filter,
    collection.updateMany (fun other doc => decide (other = key) && filter doc) update)

theorem updateOne_matched (collection : Collection Key Doc) (key : Key) (filter : Doc → Bool)
    (update : Doc → Doc) :
    (collection.updateOne key filter update).1 = true ↔
      ∃ doc, collection.find key = some doc ∧ filter doc = true :=
  Option.any_eq_true _ _

@[simp]
theorem keys_updateOne (collection : Collection Key Doc) (key : Key) (filter : Doc → Bool)
    (update : Doc → Doc) :
    (collection.updateOne key filter update).2.keys = collection.keys := rfl

theorem find_updateOne_of_ne (collection : Collection Key Doc) {key other : Key}
    (filter : Doc → Bool) (update : Doc → Doc) (different : other ≠ key) :
    (collection.updateOne key filter update).2.find other = collection.find other := by
  show (collection.updateMany _ update).find other = _
  rw [find_updateMany]
  simp only [different, decide_false, Bool.false_and, Bool.false_eq_true, if_false,
    Option.map_id']

theorem find_updateOne_self (collection : Collection Key Doc) (key : Key) (filter : Doc → Bool)
    (update : Doc → Doc) :
    (collection.updateOne key filter update).2.find key =
      (collection.find key).map fun doc => if filter doc then update doc else doc := by
  show (collection.updateMany _ update).find key = _
  rw [find_updateMany]
  simp only [decide_true, Bool.true_and]

/-- An update that matches nothing leaves every document as it was. -/
theorem find_updateOne_of_unmatched (collection : Collection Key Doc) {key : Key}
    {filter : Doc → Bool} (update : Doc → Doc)
    (unmatched : (collection.updateOne key filter update).1 = false) (other : Key) :
    (collection.updateOne key filter update).2.find other = collection.find other := by
  by_cases same : other = key
  · subst same
    rw [find_updateOne_self]
    have refused : (collection.find other).any filter = false := unmatched
    cases found : collection.find other with
    | none => rfl
    | some doc =>
      rw [found, Option.any_some] at refused
      rw [Option.map_some, refused, if_neg Bool.false_ne_true]
  · exact find_updateOne_of_ne collection filter update same

/-- Delete the document under a key. -/
def delete (collection : Collection Key Doc) (key : Key) : Collection Key Doc :=
  collection.rewrite fun other doc => if other = key then none else some doc

@[simp]
theorem keys_delete (collection : Collection Key Doc) (key : Key) :
    (collection.delete key).keys = collection.keys := rfl

theorem find_delete (collection : Collection Key Doc) (key other : Key) :
    (collection.delete key).find other = if other = key then none else collection.find other := by
  show (collection.find other).bind _ = _
  by_cases same : other = key
  · simp only [same, if_true]
    cases collection.find key <;> rfl
  · simp only [same, if_false]
    cases collection.find other <;> rfl

/-- Put a document under a key, in place of the one the key has. -/
def put (collection : Collection Key Doc) (key : Key) (doc : Doc) : Collection Key Doc where
  keys := if key ∈ collection.keys then collection.keys else collection.keys ++ [key]
  find := Function.update collection.find key (some doc)
  distinct := by
    by_cases member : key ∈ collection.keys
    · rw [if_pos member]
      exact collection.distinct
    · rw [if_neg member]
      exact (collection.insert key doc member).distinct
  known other found := by
    by_cases member : key ∈ collection.keys
    · rw [if_pos member]
      by_cases same : other = key
      · exact same ▸ member
      · rw [Function.update_of_ne same] at found
        exact collection.known other found
    · rw [if_neg member]
      refine (collection.insert key doc member).known other ?_
      rwa [find_insert, ← Function.update_apply]

@[simp]
theorem find_put (collection : Collection Key Doc) (key : Key) (doc : Doc) :
    (collection.put key doc).find = Function.update collection.find key (some doc) := rfl

/-- The documents of two collections; where both have one, the front one's. -/
def overlay (front back : Collection Key Doc) : Collection Key Doc where
  keys := back.keys ++ front.keys.filter fun key => key ∉ back.keys
  find key := (front.find key).or (back.find key)
  distinct := by
    rw [List.nodup_append]
    refine ⟨back.distinct, front.distinct.filter _, ?_⟩
    rintro key member other otherMember rfl
    exact absurd member (of_decide_eq_true (List.mem_filter.mp otherMember).2)
  known key found := by
    rw [List.mem_append, List.mem_filter, decide_eq_true_eq]
    by_cases member : key ∈ back.keys
    · exact Or.inl member
    · rw [find_eq_none member, Option.or_none] at found
      exact Or.inr ⟨front.known key found, member⟩

@[simp]
theorem find_overlay (front back : Collection Key Doc) (key : Key) :
    (front.overlay back).find key = (front.find key).or (back.find key) := rfl

theorem overlay_empty (front : Collection Key Doc) : front.overlay empty = front := by
  have keys : [] ++ front.keys.filter (fun key => key ∉ ([] : List Key)) = front.keys := by
    rw [List.nil_append, List.filter_eq_self]
    exact fun key _ => decide_eq_true List.not_mem_nil
  have find : (fun key => (front.find key).or none) = front.find :=
    funext fun key => Option.or_none
  cases front
  simp only [overlay, empty, mk.injEq]
  exact ⟨keys, find⟩

/-! ### Queries -/

/-- The keys of the documents a filter selects, the oldest first. -/
def select (collection : Collection Key Doc) (filter : Key → Doc → Bool) : List Key :=
  collection.keys.filter fun key => (collection.find key).any (filter key)

omit [DecidableEq Key] in
theorem mem_select {collection : Collection Key Doc} {filter : Key → Doc → Bool} {key : Key} :
    key ∈ collection.select filter ↔
      ∃ doc, collection.find key = some doc ∧ filter key doc = true := by
  rw [select, List.mem_filter, Option.any_eq_true]
  constructor
  · rintro ⟨_, doc, found, accepted⟩
    exact ⟨doc, found, accepted⟩
  · rintro ⟨doc, found, accepted⟩
    exact ⟨mem_keys_of_find found, doc, found, accepted⟩

omit [DecidableEq Key] in
theorem nodup_select (collection : Collection Key Doc) (filter : Key → Doc → Bool) :
    (collection.select filter).Nodup :=
  collection.distinct.filter _

/-- Updating a document so that the filter refuses it takes its key out of the selection. -/
theorem select_updateOne (collection : Collection Key Doc) (key : Key) {filter : Doc → Bool}
    {update : Doc → Doc} (refused : ∀ doc, filter doc = true → filter (update doc) = false) :
    ((collection.updateOne key filter update).2.select fun _ doc => filter doc) =
      (collection.select fun _ doc => filter doc).filter fun other => other ≠ key := by
  rw [select, select, List.filter_filter, keys_updateOne]
  refine List.filter_congr fun other _ => ?_
  by_cases same : other = key
  · subst same
    rw [find_updateOne_self]
    cases collection.find other with
    | none => simp
    | some doc =>
      by_cases accepted : filter doc = true
      · simp [accepted, refused doc accepted]
      · simp [accepted]
  · rw [find_updateOne_of_ne collection filter update same]
    simp [same]

end Collection

namespace Collection

variable {Key Doc : Type} [LinearOrder Key]

/-- The least key whose document the filter accepts. -/
def least (collection : Collection Key Doc) (filter : Key → Doc → Bool) : Option Key :=
  (collection.select filter).min?

theorem least_eq_some {collection : Collection Key Doc} {filter : Key → Doc → Bool} {key : Key} :
    collection.least filter = some key ↔
      key ∈ collection.select filter ∧ ∀ other ∈ collection.select filter, key ≤ other :=
  List.min?_eq_some_iff

theorem least_eq_none {collection : Collection Key Doc} {filter : Key → Doc → Bool} :
    collection.least filter = none ↔ collection.select filter = [] :=
  List.min?_eq_none_iff

/-- Update the document with the least key among those the filter accepts, and return that
key with the document after the update. -/
def findOneAndUpdate (collection : Collection Key Doc) (filter : Doc → Bool)
    (update : Doc → Doc) : Option ((Key × Doc) × Collection Key Doc) :=
  (collection.least fun _ doc => filter doc).bind fun key =>
    (collection.find key).map fun doc =>
      ((key, update doc), (collection.updateOne key filter update).2)

/-- What a find-and-update that found something did. -/
theorem findOneAndUpdate_eq_some {collection next : Collection Key Doc} {filter : Doc → Bool}
    {update : Doc → Doc} {key : Key} {updated : Doc}
    (found : collection.findOneAndUpdate filter update = some ((key, updated), next)) :
    ∃ doc, collection.find key = some doc ∧ filter doc = true ∧ updated = update doc ∧
      (∀ other ∈ collection.select fun _ doc => filter doc, key ≤ other) ∧
      next = (collection.updateOne key filter update).2 := by
  obtain ⟨chosen, leastKey, found⟩ := Option.bind_eq_some_iff.mp found
  obtain ⟨doc, stored, same⟩ := Option.map_eq_some_iff.mp found
  simp only [Prod.mk.injEq] at same
  obtain ⟨⟨rfl, rfl⟩, rfl⟩ := same
  obtain ⟨member, lower⟩ := least_eq_some.mp leastKey
  obtain ⟨other, storedOther, accepted⟩ := mem_select.mp member
  rw [stored, Option.some_inj] at storedOther
  exact ⟨doc, stored, storedOther ▸ accepted, rfl, lower, rfl⟩

theorem findOneAndUpdate_eq_none {collection : Collection Key Doc} {filter : Doc → Bool}
    {update : Doc → Doc} :
    collection.findOneAndUpdate filter update = none ↔
      ∀ key doc, collection.find key = some doc → filter doc = false := by
  constructor
  · intro nothing key doc stored
    rw [findOneAndUpdate, Option.bind_eq_none_iff] at nothing
    by_contra accepted
    rw [Bool.not_eq_false] at accepted
    have member : key ∈ collection.select fun _ doc => filter doc :=
      mem_select.mpr ⟨doc, stored, accepted⟩
    cases chosen : collection.least fun _ doc => filter doc with
    | none =>
      rw [least_eq_none.mp chosen] at member
      exact absurd member (List.not_mem_nil)
    | some least =>
      obtain ⟨other, storedOther, _⟩ := mem_select.mp (least_eq_some.mp chosen).1
      have none := nothing least chosen
      rw [storedOther, Option.map_some] at none
      exact absurd none (Option.some_ne_none _)
  · intro refused
    have nothing : (collection.select fun _ doc => filter doc) = [] := by
      refine List.eq_nil_iff_forall_not_mem.mpr fun key member => ?_
      obtain ⟨doc, stored, accepted⟩ := mem_select.mp member
      rw [refused key doc stored] at accepted
      exact Bool.false_ne_true accepted
    rw [findOneAndUpdate, least_eq_none.mpr nothing, Option.bind_none]

/-- The documents with their keys, in the order of their insertion. -/
def entries (collection : Collection Key Doc) : List (Key × Doc) :=
  collection.keys.filterMap fun key => (collection.find key).map fun doc => (key, doc)

omit [LinearOrder Key] in
theorem mem_entries {collection : Collection Key Doc} {entry : Key × Doc} :
    entry ∈ collection.entries ↔ collection.find entry.1 = some entry.2 := by
  rw [entries, List.mem_filterMap]
  constructor
  · rintro ⟨key, _, found⟩
    obtain ⟨doc, stored, rfl⟩ := Option.map_eq_some_iff.mp found
    exact stored
  · intro stored
    refine ⟨entry.1, mem_keys_of_find stored, ?_⟩
    rw [stored, Option.map_some]

omit [LinearOrder Key] in
theorem distinct_entries (collection : Collection Key Doc) :
    (collection.entries.map Prod.fst).Nodup := by
  rw [entries, List.map_filterMap]
  refine collection.distinct.filterMap fun first second key isFirst isSecond => ?_
  rw [Option.mem_def, Option.map_map] at isFirst isSecond
  obtain ⟨_, _, rfl⟩ := Option.map_eq_some_iff.mp isFirst
  obtain ⟨_, _, same⟩ := Option.map_eq_some_iff.mp isSecond
  exact same.symm

/-! ### Records of two keys -/

/-- Records that have no first key and no second key twice match their keys one to one. -/
theorem exists_bijOn {Record First Second : Type} [Nonempty Second] {records : List Record}
    {first : Record → First} {second : Record → Second} (distinctFirst : (records.map first).Nodup)
    (distinctSecond : (records.map second).Nodup) :
    ∃ matching : First → Second,
      Set.BijOn matching {key | key ∈ records.map first} {key | key ∈ records.map second} ∧
        ∀ record ∈ records, matching (first record) = second record := by
  classical
  have agrees : ∀ record ∈ records,
      (if found : ∃ other ∈ records, first other = first record then second found.choose
        else Classical.arbitrary Second) = second record := by
    intro record member
    have found : ∃ other ∈ records, first other = first record := ⟨record, member, rfl⟩
    rw [dif_pos found, List.inj_on_of_nodup_map distinctFirst found.choose_spec.1 member
      found.choose_spec.2]
  refine ⟨fun key => if found : ∃ other ∈ records, first other = key then second found.choose
    else Classical.arbitrary Second, ⟨?_, ?_, ?_⟩, agrees⟩
  · intro key member
    obtain ⟨record, known, rfl⟩ := List.mem_map.mp member
    show _ ∈ records.map second
    dsimp only
    rw [agrees record known]
    exact List.mem_map_of_mem known
  · intro key member other otherMember same
    obtain ⟨record, known, rfl⟩ := List.mem_map.mp member
    obtain ⟨next, otherKnown, rfl⟩ := List.mem_map.mp otherMember
    dsimp only at same
    rw [agrees record known, agrees next otherKnown] at same
    rw [List.inj_on_of_nodup_map distinctSecond known otherKnown same]
  · intro key member
    obtain ⟨record, known, rfl⟩ := List.mem_map.mp member
    exact ⟨first record, List.mem_map_of_mem known, agrees record known⟩

end Collection
