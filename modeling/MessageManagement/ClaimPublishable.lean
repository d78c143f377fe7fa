/-
This file settles which rows `claimPublishable` hands out.

The batch is a loop of find-and-update operations, each taking the due row with
the least `_id`. What the loop has taken carries a lease that starts at its own
`now`, so no filter whose `now` is less than the lock timeout away selects it
again: the due rows shrink from below, whether the loop is alone or interleaved
with loops of other instances.

The filter compares with two dates. Where the lock timeout is so long that the
second is none, the first operation is refused before it is sent.
-/

import MessageManagement.Library.IsoDate
import MessageManagement.Library.Keyset
import MessageManagement.Library.Transition
import MessageManagement.OutboxLifecycle

namespace MessageManagement

variable {Instance Payload : Type}

/-! ### The dates of the filter -/

/-- Mongoose's error for a filter that compares a field with an Invalid Date. -/
structure CastError where
  path : JsString

namespace ClaimPublishableOutboxEventsInput

/-- `now` and `expiredBefore` are dates. -/
def isCastable (input : ClaimPublishableOutboxEventsInput Instance) : Bool :=
  (JsDate.ofMs input.now).isSome && (JsDate.ofMs (input.now - input.lockTimeoutMs)).isSome

/-- Mongoose casts the filter in its order. -/
def castFilter (input : ClaimPublishableOutboxEventsInput Instance) : Except CastError Unit :=
  if (JsDate.ofMs input.now).isNone then .error ⟨jsString "nextAttemptAt"⟩
  else if (JsDate.ofMs (input.now - input.lockTimeoutMs)).isNone then
    .error ⟨jsString "lockedAt"⟩
  else .ok ()

theorem castFilter_of_isCastable {input : ClaimPublishableOutboxEventsInput Instance}
    (castable : input.isCastable = true) : input.castFilter = .ok () := by
  rw [isCastable, Bool.and_eq_true, ← Option.not_isNone, ← Option.not_isNone, Bool.not_eq_true',
    Bool.not_eq_true'] at castable
  rw [castFilter, castable.1, castable.2]
  rfl

theorem castFilter_of_not_isCastable {input : ClaimPublishableOutboxEventsInput Instance}
    (refused : input.isCastable = false) : ∃ error, input.castFilter = .error error := by
  rw [isCastable, Bool.and_eq_false_iff, ← Option.not_isNone, ← Option.not_isNone,
    Bool.not_eq_false', Bool.not_eq_false'] at refused
  rw [castFilter]
  split
  · exact ⟨_, rfl⟩
  · rename_i dated
    rw [if_pos (refused.resolve_left dated)]
    exact ⟨_, rfl⟩

end ClaimPublishableOutboxEventsInput

/-- What `claimPublishable` settles with and what it leaves, when no other writer acts during the
call. -/
def settleClaimPublishable (input : ClaimPublishableOutboxEventsInput Instance)
    (outbox : OutboxCollection Instance Payload) :
    Except CastError (List (OutboxEvent Instance Payload)) × OutboxCollection Instance Payload :=
  if input.batchSize = 0 then (.ok [], outbox)
  else
    match input.castFilter with
    | .error error => (.error error, outbox)
    | .ok () =>
      let (claimed, next) := claimPublishable input outbox
      (.ok claimed, next)

/-! ### The due rows -/

/-- The `_id`s of the rows the filter of a claim selects, in ascending order. -/
def eligibleIds (input : ClaimPublishableOutboxEventsInput Instance)
    (outbox : OutboxCollection Instance Payload) : List ObjectId :=
  Keyset.sorted id (outbox.select fun _ row => claimFilter input row)

section Eligible

variable {input other : ClaimPublishableOutboxEventsInput Instance}
  {outbox next : OutboxCollection Instance Payload} {event : OutboxEvent Instance Payload}

theorem mem_eligibleIds {id : ObjectId} :
    id ∈ eligibleIds input outbox ↔
      ∃ row, outbox.find id = some row ∧ claimFilter input row = true := by
  rw [eligibleIds, Keyset.mem_sorted, Collection.mem_select]

theorem distinct_due (input : ClaimPublishableOutboxEventsInput Instance)
    (outbox : OutboxCollection Instance Payload) :
    ((outbox.select fun _ row => claimFilter input row).map id).Nodup := by
  rw [List.map_id]
  exact Collection.nodup_select _ _

theorem ascending_eligibleIds (input : ClaimPublishableOutboxEventsInput Instance)
    (outbox : OutboxCollection Instance Payload) :
    (eligibleIds input outbox).Pairwise (· < ·) :=
  Keyset.increasing_sorted (distinct_due input outbox)

/-- A lease that started less than the lock timeout before is not expired. -/
theorem not_claimFilter_of_leased {row : OutboxEventEntity Instance Payload} {lockedAt : Int}
    (publishing : row.status = .publishing) (locked : row.lockedAt = some lockedAt)
    (near : input.now - lockedAt < input.lockTimeoutMs) : claimFilter input row = false := by
  refine Bool.eq_false_iff.mpr fun eligible => ?_
  rcases (claimFilter_iff input row).mp eligible with ⟨pending, _⟩ | ⟨_, since, isLocked, expired⟩
  · exact nomatch publishing.symm.trans pending
  · rw [locked, Option.some_inj] at isLocked
    omega

/-- A claim takes the least due row, and the others stay due. -/
theorem claimOne_eligibleIds (timeout : 0 < input.lockTimeoutMs)
    (claimed : claimOne input outbox = some (event, next)) :
    eligibleIds input outbox = event.id :: eligibleIds input next := by
  obtain ⟨row, stored, eligible, _, least, rfl⟩ := claimOne_eq_some claimed
  have refused : ∀ row : OutboxEventEntity Instance Payload, claimFilter input row = true →
      claimFilter input (claimUpdate input row) = false := by
    intro row _
    refine not_claimFilter_of_leased rfl (show _ = some input.now from rfl) ?_
    rw [sub_self]
    exact timeout
  have ascending := ascending_eligibleIds input outbox
  have rest : eligibleIds input
      (outbox.updateOne event.id (claimFilter input) (claimUpdate input)).2 =
        (eligibleIds input outbox).filter fun other => other ≠ event.id := by
    rw [eligibleIds, Collection.select_updateOne outbox event.id refused,
      Keyset.sorted_filter (distinct_due input outbox)]
    rfl
  rw [rest]
  cases due : eligibleIds input outbox with
  | nil =>
    have member := mem_eligibleIds.mpr ⟨row, stored, eligible⟩
    rw [due] at member
    exact absurd member List.not_mem_nil
  | cons first others =>
    rw [due] at ascending
    obtain ⟨above, _⟩ := List.pairwise_cons.mp ascending
    have isFirst : first = event.id := by
      have firstDue : first ∈ eligibleIds input outbox := due ▸ List.mem_cons_self
      have lower := least first (Collection.mem_select.mpr (mem_eligibleIds.mp firstDue))
      have member := mem_eligibleIds.mpr ⟨row, stored, eligible⟩
      rw [due, List.mem_cons] at member
      rcases member with same | later
      · exact same.symm
      · exact absurd (above _ later) (not_lt.mpr lower)
    subst isFirst
    rw [List.filter_cons_of_neg (by simp), List.filter_eq_self.mpr]
    exact fun other member => decide_eq_true (ne_of_gt (above other member))

theorem claimOne_eq_none_iff : claimOne input outbox = none ↔ eligibleIds input outbox = [] := by
  rw [claimOne_eq_none, List.eq_nil_iff_forall_not_mem]
  constructor
  · intro refused id member
    obtain ⟨row, stored, eligible⟩ := mem_eligibleIds.mp member
    rw [refused id row stored] at eligible
    cases eligible
  · intro nothing id row stored
    exact Bool.eq_false_iff.mpr fun eligible =>
      nothing id (mem_eligibleIds.mpr ⟨row, stored, eligible⟩)

end Eligible

/-! ### One call -/

/-- What a loop of claims took from the due rows: the first ones, in order, each as its claim left
it; every other row is as it was. -/
structure ClaimsFirst (input : ClaimPublishableOutboxEventsInput Instance) (count : Nat)
    (outbox : OutboxCollection Instance Payload) (claimed : List (OutboxEvent Instance Payload))
    (next : OutboxCollection Instance Payload) : Prop where
  ids : claimed.map (·.id) = (eligibleIds input outbox).take count
  rest : eligibleIds input next = (eligibleIds input outbox).drop count
  events : ∀ event ∈ claimed, ∃ row, outbox.find event.id = some row ∧
    event = mapOutboxEvent event.id (claimUpdate input row) ∧
    next.find event.id = some (claimUpdate input row)
  others : ∀ id, id ∉ claimed.map (·.id) → next.find id = outbox.find id

section Calls

variable {input : ClaimPublishableOutboxEventsInput Instance} {count more : Nat}
  {outbox middle next : OutboxCollection Instance Payload}
  {claimed taken : List (OutboxEvent Instance Payload)}

/-- Where no row is due, a loop of any length takes nothing. -/
theorem ClaimsFirst.nothing (nothing : eligibleIds input outbox = []) (count : Nat) :
    ClaimsFirst input count outbox [] outbox where
  ids := by rw [nothing, List.take_nil, List.map_nil]
  rest := by rw [nothing, List.drop_nil]
  events _ member := absurd member List.not_mem_nil
  others _ _ := rfl

theorem ClaimsFirst.single (timeout : 0 < input.lockTimeoutMs)
    {event : OutboxEvent Instance Payload} (claimed : claimOne input outbox = some (event, next)) :
    ClaimsFirst input 1 outbox [event] next := by
  have due := claimOne_eligibleIds timeout claimed
  obtain ⟨row, stored, eligible, isEvent, _, left⟩ := claimOne_eq_some claimed
  refine ⟨?_, ?_, fun other member => ?_, fun id other => ?_⟩
  · rw [due]
    rfl
  · rw [due]
    rfl
  · obtain rfl := List.mem_singleton.mp member
    refine ⟨row, stored, isEvent, ?_⟩
    rw [left, Collection.find_updateOne_self, stored, Option.map_some, if_pos eligible]
  · rw [left]
    refine Collection.find_updateOne_of_ne outbox _ _ fun same => other ?_
    rw [same]
    exact List.mem_singleton_self _

/-- One loop after another is one longer loop. -/
theorem ClaimsFirst.append (first : ClaimsFirst input count outbox claimed middle)
    (second : ClaimsFirst input more middle taken next) :
    ClaimsFirst input (count + more) outbox (claimed ++ taken) next := by
  have apart : List.Disjoint (claimed.map (·.id)) (taken.map (·.id)) := by
    have distinct : (eligibleIds input outbox).Nodup :=
      (ascending_eligibleIds input outbox).imp ne_of_lt
    rw [first.ids, second.ids, first.rest]
    exact List.disjoint_of_subset_right (List.take_subset _ _)
      (List.disjoint_take_drop distinct (le_refl count))
  refine ⟨?_, ?_, fun event member => ?_, fun id other => ?_⟩
  · rw [List.map_append, first.ids, second.ids, first.rest, List.take_add]
  · rw [second.rest, first.rest, List.drop_drop]
  · rcases List.mem_append.mp member with early | late
    · obtain ⟨row, stored, isEvent, left⟩ := first.events event early
      refine ⟨row, stored, isEvent, ?_⟩
      rw [second.others event.id (apart (List.mem_map_of_mem early)), left]
    · obtain ⟨row, stored, isEvent, left⟩ := second.events event late
      refine ⟨row, ?_, isEvent, left⟩
      rw [← first.others event.id fun early => apart early (List.mem_map_of_mem late), stored]
  · rw [List.map_append, List.mem_append, not_or] at other
    rw [second.others id other.2, first.others id other.1]

theorem claimLoop_claimsFirst (timeout : 0 < input.lockTimeoutMs) (remaining : Nat)
    (outbox : OutboxCollection Instance Payload) :
    ClaimsFirst input remaining outbox (claimLoop input remaining outbox).1
      (claimLoop input remaining outbox).2 := by
  induction remaining generalizing outbox with
  | zero =>
    exact ⟨rfl, rfl, fun _ member => absurd member List.not_mem_nil, fun _ _ => rfl⟩
  | succ remaining inductionHypothesis =>
    rw [claimLoop]
    cases claimed : claimOne input outbox with
    | none => exact .nothing (claimOne_eq_none_iff.mp claimed) _
    | some result =>
      obtain ⟨event, next⟩ := result
      rw [Nat.add_comm]
      exact (ClaimsFirst.single timeout claimed).append (inductionHypothesis next)

theorem settleClaimPublishable_of_isCastable (castable : input.isCastable = true)
    (outbox : OutboxCollection Instance Payload) :
    settleClaimPublishable input outbox =
      (.ok (claimLoop input input.batchSize outbox).1,
        (claimLoop input input.batchSize outbox).2) := by
  rw [settleClaimPublishable, ClaimPublishableOutboxEventsInput.castFilter_of_isCastable castable]
  split
  · rename_i none
    rw [none]
    rfl
  · rfl

/-- A loop that would send a query is refused, and nothing changes. -/
theorem settleClaimPublishable_of_not_isCastable (refused : input.isCastable = false)
    (asks : 1 ≤ input.batchSize) (outbox : OutboxCollection Instance Payload) :
    ∃ error, settleClaimPublishable input outbox = (.error error, outbox) := by
  obtain ⟨error, casts⟩ := ClaimPublishableOutboxEventsInput.castFilter_of_not_isCastable refused
  refine ⟨error, ?_⟩
  rw [settleClaimPublishable, if_neg (by omega), casts]

/-- Calls with the same input, one after another, up to the first that rejects: their batches and
what they leave. -/
def claimRepeatedly (input : ClaimPublishableOutboxEventsInput Instance) :
    Nat → OutboxCollection Instance Payload →
      Except CastError (List (List (OutboxEvent Instance Payload))) ×
        OutboxCollection Instance Payload
  | 0, outbox => (.ok [], outbox)
  | calls + 1, outbox =>
    match settleClaimPublishable input outbox with
    | (.error error, next) => (.error error, next)
    | (.ok claimed, next) =>
      let (later, final) := claimRepeatedly input calls next
      (later.map (claimed :: ·), final)

theorem claimRepeatedly_claimsFirst (timeout : 0 < input.lockTimeoutMs)
    (castable : input.isCastable = true) (calls : Nat)
    (outbox : OutboxCollection Instance Payload) :
    ∃ batches next, claimRepeatedly input calls outbox = (.ok batches, next) ∧
      ClaimsFirst input (calls * input.batchSize) outbox batches.flatten next := by
  induction calls generalizing outbox with
  | zero =>
    rw [Nat.zero_mul]
    exact ⟨[], outbox, rfl, rfl, rfl, fun _ member => absurd member List.not_mem_nil,
      fun _ _ => rfl⟩
  | succ calls inductionHypothesis =>
    obtain ⟨batches, next, repeated, claims⟩ :=
      inductionHypothesis (claimLoop input input.batchSize outbox).2
    refine ⟨(claimLoop input input.batchSize outbox).1 :: batches, next, ?_, ?_⟩
    · rw [claimRepeatedly, settleClaimPublishable_of_isCastable castable]
      dsimp only
      rw [repeated]
      rfl
    · rw [Nat.succ_mul, Nat.add_comm]
      exact (claimLoop_claimsFirst timeout input.batchSize outbox).append claims

end Calls

/-! ### Calls of several instances -/

/-- The collection, what each call has claimed so far, and how it settled, if it did. -/
structure ClaimState (Call Instance Payload : Type) where
  outbox : OutboxCollection Instance Payload
  claimed : Call → List (OutboxEvent Instance Payload)
  settled : Call → Option (Except CastError Unit)

def ClaimState.start {Call : Type} (outbox : OutboxCollection Instance Payload) :
    ClaimState Call Instance Payload where
  outbox
  claimed _ := []
  settled _ := none

/-- A call resolves or rejects. -/
def ClaimState.settle {Call : Type} [DecidableEq Call] (call : Call)
    (result : Except CastError Unit) (state : ClaimState Call Instance Payload) :
    ClaimState Call Instance Payload :=
  { state with settled := Function.update state.settled call (some result) }

/-- One pass of the loop of one call: a refused filter, an update, the return where nothing is due,
or the return behind the last pass. -/
def claimStep {Call : Type} [DecidableEq Call]
    (inputs : Call → ClaimPublishableOutboxEventsInput Instance)
    (state : ClaimState Call Instance Payload) (call : Call) :
    Option (ClaimState Call Instance Payload) :=
  match state.settled call with
  | some _ => none
  | none =>
    if (state.claimed call).length < (inputs call).batchSize then
      match (inputs call).castFilter with
      | .error error => some (state.settle call (.error error))
      | .ok () =>
        match claimOne (inputs call) state.outbox with
        | none => some (state.settle call (.ok ()))
        | some (event, next) =>
          some { state with
            outbox := next
            claimed := Function.update state.claimed call (state.claimed call ++ [event]) }
    else some (state.settle call (.ok ()))

/-- What is claimed is leased by its call, lies below what is still due for it, and is claimed by no
other call, nor by one whose filter is refused. -/
structure ClaimInvariant {Call : Type} (inputs : Call → ClaimPublishableOutboxEventsInput Instance)
    (state : ClaimState Call Instance Payload) : Prop where
  leased : ∀ call, ∀ event ∈ state.claimed call, ∃ row, state.outbox.find event.id = some row ∧
    row.status = .publishing ∧ row.lockedAt = some (inputs call).now
  below : ∀ call, ∀ event ∈ state.claimed call, ∀ id ∈ eligibleIds (inputs call) state.outbox,
    event.id < id
  ascending : ∀ call, ((state.claimed call).map (·.id)).Pairwise (· < ·)
  disjoint : ∀ first second, first ≠ second →
    List.Disjoint ((state.claimed first).map (·.id)) ((state.claimed second).map (·.id))
  refused : ∀ call, (inputs call).isCastable = false → state.claimed call = []

theorem ClaimInvariant.start {Call : Type}
    (inputs : Call → ClaimPublishableOutboxEventsInput Instance)
    (outbox : OutboxCollection Instance Payload) : ClaimInvariant inputs (.start outbox) where
  leased _ _ member := absurd member List.not_mem_nil
  below _ _ member := absurd member List.not_mem_nil
  ascending _ := List.Pairwise.nil
  disjoint _ _ _ := List.disjoint_nil_left _
  refused _ _ := rfl

section Interleaved

variable {Call : Type} [DecidableEq Call]
  {inputs : Call → ClaimPublishableOutboxEventsInput Instance}
  {state next : ClaimState Call Instance Payload} {call : Call}

/-- A claim whose clock is near those of the other calls takes no row that one of them has, and
makes none due for them. -/
theorem ClaimInvariant.claim (invariant : ClaimInvariant inputs state)
    (near : ∀ first second, (inputs first).now - (inputs second).now <
      (inputs first).lockTimeoutMs)
    (casts : (inputs call).castFilter = .ok ()) {event : OutboxEvent Instance Payload}
    {outbox : OutboxCollection Instance Payload}
    (claimed : claimOne (inputs call) state.outbox = some (event, outbox)) :
    ClaimInvariant inputs { state with
      outbox
      claimed := Function.update state.claimed call (state.claimed call ++ [event]) } := by
  obtain ⟨row, stored, eligible, _, least, left⟩ := claimOne_eq_some claimed
  have taken : outbox.find event.id = some (claimUpdate (inputs call) row) := by
    rw [left, Collection.find_updateOne_self, stored, Option.map_some, if_pos eligible]
  have kept : ∀ id, id ≠ event.id → outbox.find id = state.outbox.find id := by
    intro id other
    rw [left]
    exact Collection.find_updateOne_of_ne state.outbox _ _ other
  have fresh : ∀ other, ∀ earlier ∈ state.claimed other, earlier.id ≠ event.id := by
    intro other earlier member same
    obtain ⟨held, isHeld, publishing, locked⟩ := invariant.leased other earlier member
    rw [same, stored, Option.some_inj] at isHeld
    rw [isHeld, not_claimFilter_of_leased publishing locked (near call other)] at eligible
    cases eligible
  have shrinks : ∀ other id, id ∈ eligibleIds (inputs other) outbox →
      id ≠ event.id ∧ id ∈ eligibleIds (inputs other) state.outbox := by
    intro other id member
    obtain ⟨after, isAfter, due⟩ := mem_eligibleIds.mp member
    have different : id ≠ event.id := by
      rintro rfl
      rw [taken, Option.some_inj] at isAfter
      rw [← isAfter, not_claimFilter_of_leased rfl rfl (near other call)] at due
      cases due
    rw [kept id different] at isAfter
    exact ⟨different, mem_eligibleIds.mpr ⟨after, isAfter, due⟩⟩
  have members : ∀ {other : Call} {earlier : OutboxEvent Instance Payload},
      earlier ∈ Function.update state.claimed call (state.claimed call ++ [event]) other →
        earlier ∈ state.claimed other ∨ other = call ∧ earlier = event := by
    intro other earlier member
    by_cases same : other = call
    · subst same
      rw [Function.update_self, List.mem_append, List.mem_singleton] at member
      exact member.imp_right fun isEvent => ⟨rfl, isEvent⟩
    · rw [Function.update_of_ne same] at member
      exact Or.inl member
  refine ⟨fun other earlier member => ?_, fun other earlier member id due => ?_, fun other => ?_,
    fun first second different => ?_, fun other uncastable => ?_⟩
  · rcases members member with old | ⟨rfl, rfl⟩
    · obtain ⟨held, isHeld, leased⟩ := invariant.leased other earlier old
      exact ⟨held, (kept earlier.id (fresh other earlier old)).trans isHeld, leased⟩
    · exact ⟨_, taken, rfl, rfl⟩
  · obtain ⟨different, before⟩ := shrinks other id due
    rcases members member with old | ⟨rfl, rfl⟩
    · exact invariant.below other earlier old id before
    · refine lt_of_le_of_ne (least id ?_) different.symm
      exact Collection.mem_select.mpr (mem_eligibleIds.mp before)
  · dsimp only
    by_cases same : other = call
    · subst same
      rw [Function.update_self, List.map_append, List.pairwise_append]
      refine ⟨invariant.ascending other, List.pairwise_singleton _ _, ?_⟩
      intro first isFirst last isLast
      obtain ⟨earlier, member, rfl⟩ := List.mem_map.mp isFirst
      obtain rfl := List.mem_singleton.mp isLast
      exact invariant.below other earlier member event.id
        (mem_eligibleIds.mpr ⟨row, stored, eligible⟩)
    · rw [Function.update_of_ne same]
      exact invariant.ascending other
  · intro id isFirst isSecond
    obtain ⟨one, memberOne, rfl⟩ := List.mem_map.mp isFirst
    obtain ⟨two, memberTwo, same⟩ := List.mem_map.mp isSecond
    rcases members memberOne with oldOne | ⟨rfl, rfl⟩
    · rcases members memberTwo with oldTwo | ⟨rfl, rfl⟩
      · exact invariant.disjoint first second different (List.mem_map_of_mem oldOne)
          (same ▸ List.mem_map_of_mem oldTwo)
      · exact fresh first one oldOne same.symm
    · rcases members memberTwo with oldTwo | ⟨rfl, _⟩
      · exact fresh second two oldTwo same
      · exact different rfl
  · have different : other ≠ call := by
      rintro rfl
      obtain ⟨error, refused⟩ :=
        ClaimPublishableOutboxEventsInput.castFilter_of_not_isCastable uncastable
      rw [refused] at casts
      cases casts
    show Function.update state.claimed call (state.claimed call ++ [event]) other = []
    rw [Function.update_of_ne different]
    exact invariant.refused other uncastable

theorem claimStep_invariant (near : ∀ first second, (inputs first).now - (inputs second).now <
      (inputs first).lockTimeoutMs) (invariant : ClaimInvariant inputs state)
    (moved : claimStep inputs state call = some next) : ClaimInvariant inputs next := by
  -- how a call settled is not part of the invariant
  have settles : ∀ result, ClaimInvariant inputs (state.settle call result) := fun _ =>
    ⟨invariant.leased, invariant.below, invariant.ascending, invariant.disjoint,
      invariant.refused⟩
  rw [claimStep] at moved
  split at moved
  · cases moved
  · split at moved
    · split at moved
      · exact Option.some.inj moved ▸ settles _
      · rename_i casts
        split at moved
        · exact Option.some.inj moved ▸ settles _
        · rename_i event outbox claimed
          rw [← Option.some.inj moved]
          exact invariant.claim near casts claimed
    · exact Option.some.inj moved ▸ settles _

/-- A call that goes on alone claims what the rest of its loop does, and returns. -/
theorem claimStep_alone (castable : (inputs call).isCastable = true) {remaining : Nat}
    (goesOn : state.settled call = none)
    (left : (state.claimed call).length + remaining = (inputs call).batchSize) :
    ∃ passes final,
      Transition.run (claimStep inputs) state (List.replicate passes call) = some final ∧
      final.settled call = some (.ok ()) ∧
      final.claimed call =
        state.claimed call ++ (claimLoop (inputs call) remaining state.outbox).1 ∧
      final.outbox = (claimLoop (inputs call) remaining state.outbox).2 := by
  have casts := ClaimPublishableOutboxEventsInput.castFilter_of_isCastable castable
  induction remaining generalizing state with
  | zero =>
    refine ⟨1, state.settle call (.ok ()), ?_, Function.update_self _ _ _,
      (List.append_nil _).symm, rfl⟩
    rw [List.replicate_one, Transition.run, claimStep, goesOn]
    dsimp only
    rw [if_neg (by omega)]
    rfl
  | succ remaining inductionHypothesis =>
    rw [claimLoop]
    cases claimed : claimOne (inputs call) state.outbox with
    | none =>
      refine ⟨1, state.settle call (.ok ()), ?_, Function.update_self _ _ _,
        (List.append_nil _).symm, rfl⟩
      rw [List.replicate_one, Transition.run, claimStep, goesOn]
      dsimp only
      rw [if_pos (by omega), casts, claimed]
      rfl
    | some result =>
      obtain ⟨event, outbox⟩ := result
      let after : ClaimState Call Instance Payload := { state with
        outbox
        claimed := Function.update state.claimed call (state.claimed call ++ [event]) }
      have leftAfter : (after.claimed call).length + remaining = (inputs call).batchSize := by
        show (Function.update state.claimed call (state.claimed call ++ [event]) call).length +
          remaining = _
        rw [Function.update_self, List.length_append, List.length_singleton]
        omega
      have goesOnAfter : after.settled call = none := goesOn
      obtain ⟨passes, final, reached, returned, batch, leaves⟩ :=
        inductionHypothesis goesOnAfter leftAfter
      refine ⟨passes + 1, final, ?_, returned, ?_, leaves⟩
      · rw [List.replicate_succ, Transition.run, claimStep, goesOn]
        dsimp only
        rw [if_pos (by omega), casts, claimed]
        exact reached
      · rw [batch]
        show Function.update state.claimed call (state.claimed call ++ [event]) call ++ _ = _
        rw [Function.update_self, List.append_assoc]
        rfl

/-- The passes of one call alone are `claimPublishable`. -/
theorem claimPublishable_alone (inputs : Call → ClaimPublishableOutboxEventsInput Instance)
    (outbox : OutboxCollection Instance Payload) (call : Call) :
    ∃ passes final settled,
      Transition.run (claimStep inputs) (.start outbox) (List.replicate passes call) =
        some final ∧ final.settled call = some settled ∧
      (settled.map fun _ => final.claimed call, final.outbox) =
        settleClaimPublishable (inputs call) outbox := by
  have fresh : (ClaimState.start outbox : ClaimState Call Instance Payload).settled call = none :=
    rfl
  cases castable : (inputs call).isCastable with
  | true =>
    have left : ((ClaimState.start outbox : ClaimState Call Instance Payload).claimed
      call).length + (inputs call).batchSize = (inputs call).batchSize := Nat.zero_add _
    obtain ⟨passes, final, reached, returned, batch, leaves⟩ := claimStep_alone castable fresh left
    refine ⟨passes, final, _, reached, returned, ?_⟩
    rw [settleClaimPublishable_of_isCastable castable, batch, leaves]
    rfl
  | false =>
    obtain ⟨error, casts⟩ :=
      ClaimPublishableOutboxEventsInput.castFilter_of_not_isCastable castable
    have none : ((ClaimState.start outbox : ClaimState Call Instance Payload).claimed
      call).length = 0 := rfl
    by_cases asks : (inputs call).batchSize = 0
    · refine ⟨1, ClaimState.settle call (.ok ()) (.start outbox), .ok (), ?_,
        Function.update_self _ _ _, ?_⟩
      · rw [List.replicate_one, Transition.run, claimStep, fresh]
        dsimp only
        rw [if_neg (by omega)]
        rfl
      · rw [settleClaimPublishable, if_pos asks]
        rfl
    · refine ⟨1, ClaimState.settle call (.error error) (.start outbox), .error error, ?_,
        Function.update_self _ _ _, ?_⟩
      · rw [List.replicate_one, Transition.run, claimStep, fresh]
        dsimp only
        rw [if_pos (by omega), casts]
        rfl
      · rw [settleClaimPublishable, if_neg asks, casts]
        rfl

end Interleaved

/-! ### The batches -/

/-- A call alone takes the first due rows in order, and repeated calls go on until all are taken,
where both dates of the filter are dates; else a call that sends a query rejects. Batches of
interleaved calls whose clocks are less than the lock timeout apart are in order and disjoint. -/
theorem claims_due_rows_in_order {Call : Type} [DecidableEq Call] :
    (∀ (input : ClaimPublishableOutboxEventsInput Instance)
      (outbox : OutboxCollection Instance Payload), 0 < input.lockTimeoutMs →
      ((eligibleIds input outbox).Pairwise (· < ·) ∧
        ∀ id, id ∈ eligibleIds input outbox ↔ ∃ row, outbox.find id = some row ∧
          (row.status = .pending ∧ row.nextAttemptAt ≤ input.now ∨
            row.status = .publishing ∧ ∃ lockedAt, row.lockedAt = some lockedAt ∧
              lockedAt ≤ input.now - input.lockTimeoutMs)) ∧
      (input.isCastable = true →
        (∃ claimed next, settleClaimPublishable input outbox = (.ok claimed, next) ∧
          ClaimsFirst input input.batchSize outbox claimed next) ∧
        (∀ calls, ∃ batches next, claimRepeatedly input calls outbox = (.ok batches, next) ∧
          ClaimsFirst input (calls * input.batchSize) outbox batches.flatten next) ∧
        (1 ≤ input.batchSize → ∃ calls batches next,
          claimRepeatedly input calls outbox = (.ok batches, next) ∧
            batches.flatten.map (·.id) = eligibleIds input outbox)) ∧
      (input.isCastable = false → 1 ≤ input.batchSize →
        ∃ error, settleClaimPublishable input outbox = (.error error, outbox))) ∧
    ∀ (inputs : Call → ClaimPublishableOutboxEventsInput Instance)
      (outbox : OutboxCollection Instance Payload) (passes : List Call)
      (state : ClaimState Call Instance Payload),
      (∀ first second, (inputs first).now - (inputs second).now < (inputs first).lockTimeoutMs) →
      Transition.run (claimStep inputs) (.start outbox) passes = some state →
        (∀ call, ((state.claimed call).map (·.id)).Pairwise (· < ·)) ∧
        (∀ first second, first ≠ second →
          List.Disjoint ((state.claimed first).map (·.id))
            ((state.claimed second).map (·.id))) ∧
        ∀ call, (inputs call).isCastable = false → state.claimed call = [] := by
  refine ⟨fun input outbox timeout => ⟨⟨ascending_eligibleIds input outbox, fun id => ?_⟩,
    fun castable => ⟨?_, fun calls => claimRepeatedly_claimsFirst timeout castable calls outbox,
      fun positive => ?_⟩, fun refused asks =>
    settleClaimPublishable_of_not_isCastable refused asks outbox⟩,
    fun inputs outbox passes state near reached => ?_⟩
  · simp only [mem_eligibleIds, claimFilter_iff]
  · exact ⟨_, _, settleClaimPublishable_of_isCastable castable outbox,
      claimLoop_claimsFirst timeout input.batchSize outbox⟩
  · obtain ⟨batches, next, repeated, claims⟩ := claimRepeatedly_claimsFirst timeout castable
      (eligibleIds input outbox).length outbox
    refine ⟨_, batches, next, repeated, ?_⟩
    rw [claims.ids, List.take_of_length_le]
    exact Nat.le_mul_of_pos_right _ positive
  · have invariant : ClaimInvariant inputs state := Transition.run_invariant
      (fun _ _ _ invariant moved => claimStep_invariant near invariant moved)
      (.start inputs outbox) reached
    exact ⟨invariant.ascending, invariant.disjoint, invariant.refused⟩

/-- An outbox with two pending rows. -/
def exampleOutbox : OutboxCollection Bool Unit :=
  let input : CreateOutboxEventInput Unit :=
    { eventId := [], eventType := [], eventVersion := 1, topic := [], key := [], payload := (),
      nextAttemptAt := 5, createdAt := 5 }
  (Collection.empty.insert 7 input.entity (by decide)).insert 3 input.entity (by decide)

/-- The call of an instance with this clock. -/
def exampleClaim (lockedBy : Bool) : ClaimPublishableOutboxEventsInput Bool where
  batchSize := 2
  lockedBy
  lockTimeoutMs := 30000
  now := if lockedBy then 10 else 20000

/-- The two calls alternate, and each takes one of the rows. -/
theorem claims_due_rows_in_order_alternating :
    (∃ claimed next, settleClaimPublishable (exampleClaim true) exampleOutbox =
        (.ok claimed, next) ∧ ClaimsFirst (exampleClaim true) 2 exampleOutbox claimed next) ∧
      ∃ state, Transition.run (claimStep exampleClaim) (.start exampleOutbox)
          [true, false, true, false] = some state ∧
        (state.claimed true).map (·.id) = [3] ∧ (state.claimed false).map (·.id) = [7] ∧
        List.Disjoint ((state.claimed true).map (·.id)) ((state.claimed false).map (·.id)) := by
  have claims := @claims_due_rows_in_order Bool Unit Bool _
  refine ⟨((claims.1 (exampleClaim true) exampleOutbox (by decide)).2.1 (by decide)).1, ?_⟩
  have runs : (Transition.run (claimStep exampleClaim) (.start exampleOutbox)
      [true, false, true, false]).any (fun state =>
        decide ((state.claimed true).map (·.id) = [3]) &&
          decide ((state.claimed false).map (·.id) = [7])) = true := by decide +kernel
  obtain ⟨state, reached, batches⟩ := (Option.any_eq_true _ _).mp runs
  rw [Bool.and_eq_true, decide_eq_true_eq, decide_eq_true_eq] at batches
  have apart := (claims.2 exampleClaim exampleOutbox _ state (by decide) reached).2.1 true false
    Bool.noConfusion
  exact ⟨state, reached, batches.1, batches.2, apart⟩

/-- A call with the longest lock timeout that the configuration admits, in the year 2026. -/
def longestLeaseClaim : ClaimPublishableOutboxEventsInput Bool where
  batchSize := 1
  lockedBy := true
  lockTimeoutMs := 9007199254740991
  now := 1767225600000

/-- Both rows are due, and the call rejects. -/
theorem longest_lease_claim_rejects :
    0 < longestLeaseClaim.lockTimeoutMs ∧ eligibleIds longestLeaseClaim exampleOutbox = [3, 7] ∧
      ¬ ∃ claimed next, settleClaimPublishable longestLeaseClaim exampleOutbox =
          (.ok claimed, next) ∧
        ClaimsFirst longestLeaseClaim longestLeaseClaim.batchSize exampleOutbox claimed next := by
  refine ⟨by decide, by decide +kernel, ?_⟩
  rintro ⟨claimed, next, settled, _⟩
  have refused : longestLeaseClaim.isCastable = false := by decide +kernel
  obtain ⟨error, rejected⟩ :=
    settleClaimPublishable_of_not_isCastable refused (by decide) exampleOutbox
  rw [rejected] at settled
  cases settled

end MessageManagement
