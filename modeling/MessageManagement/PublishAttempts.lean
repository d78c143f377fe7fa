/-
This file bounds the sends of one outbox row.

The attempts counter is written only when a failed publish is recorded, so it
does not bound the sends by itself: a lease that expires, after a crash or
during a slow batch, lets the row be sent once more without counting. Every such
send is paid for by the reclaim that took the row over. The account of a row
keeps the books: which claims may still be sent, which were taken over, and how
far a transition made with an outdated snapshot can set the counter back.

With one clock for all instances no outdated snapshot ever makes a transition,
and the bound is one send more for every reclaim.
-/

import MessageManagement.LockOwner

namespace MessageManagement

variable {Instance Payload : Type} [DecidableEq Instance]

/-! ### The account of a row -/

/-- The books of one row. Claims are named by their numbers; `fresh`, `charged` and `sent` are
about the time since the creation of the row or its last redrive. -/
structure Ledger where
  /-- How many claims found the row pending. -/
  fresh : Nat
  /-- The claims whose snapshot was or may still be sent. -/
  charged : List Nat
  /-- The claims whose snapshot was sent. -/
  sent : List Nat
  /-- The claims a reclaim took over and that made no transition since. -/
  superseded : List Nat
  /-- The latest claims that a transition of an outdated snapshot ended. -/
  orphaned : List Nat

def Ledger.empty : Ledger where
  fresh := 0
  charged := []
  sent := []
  superseded := []
  orphaned := []

/-- What the books of a row say; `known` says that its `_id` was used. -/
structure RowAccount (config : PublisherConfig) (known : Prop)
    (row : Option (OutboxEventEntity Instance Payload)) (history : RowHistory) (ledger : Ledger) :
    Prop where
  reclaims : ledger.superseded.length + ledger.orphaned.length = history.reclaims
  sends : ledger.sent.length = history.sends
  distinct : ledger.sent.Nodup
  charged : ledger.sent ⊆ ledger.charged
  budget : ledger.charged.length = ledger.fresh + history.reclaims
  numbered : ∀ number ∈ ledger.charged, number ≤ history.claims
  spare : ∀ number ∈ ledger.superseded ++ ledger.orphaned, number ≤ history.claims
  untouched : ¬ known → ledger.fresh = 0
  waiting : ∀ stored ∈ row, stored.status = .pending ∨ stored.status = .failed →
    (ledger.fresh : Int) ≤ stored.attempts + ledger.orphaned.length * (config.maxAttempts - 1)
  working : ∀ stored ∈ row, stored.status = .publishing →
    (ledger.fresh : Int) ≤ stored.attempts + 1 + ledger.orphaned.length * (config.maxAttempts - 1)
  ever : (ledger.fresh : Int) ≤
    config.maxAttempts + ledger.orphaned.length * (config.maxAttempts - 1)

/-- What the books say of a claim whose snapshot an instance holds. -/
structure HeldAccount (publisher : Instance) (claiming : Bool)
    (row : Option (OutboxEventEntity Instance Payload)) (history : RowHistory) (ledger : Ledger)
    (claimed : ClaimedEvent Instance Payload) : Prop where
  numbered : claimed.number ≤ history.claims
  left : ∀ stored ∈ row, stored.status = .pending ∨ stored.status = .failed →
    claimed.number ∈ ledger.superseded ++ ledger.orphaned
  publishing : ∀ stored ∈ row, stored.status = .publishing →
    claimed.number ∈ ledger.superseded ++ ledger.orphaned ∨ claimed.number = history.claims
  owned : ∀ stored ∈ row, lockOwnerFilter publisher stored = true →
    claimed.number ∈ ledger.superseded ∨
      claimed.number = history.claims ∧ stored.attempts = claimed.event.attempts
  kept : claiming = true → claimed.number ∈ ledger.superseded ∨
    ∃ stored, row = some stored ∧ lockOwnerFilter publisher stored = true ∧
      claimed.number = history.claims

/-- What names a claim among the claims of all rows. -/
def ClaimedEvent.key (claimed : ClaimedEvent Instance Payload) : ObjectId × Nat :=
  (claimed.event.id, claimed.number)

structure AccountInvariant (config : PublisherConfig) (state : PublisherState Instance Payload)
    (ledger : ObjectId → Ledger) : Prop where
  rows : ∀ id, RowAccount config (id ∈ state.outbox.keys) (state.outbox.find id)
    (state.history id) (ledger id)
  known : ∀ publisher, ∀ claimed ∈ (state.phase publisher).held,
    claimed.event.id ∈ state.outbox.keys
  held : ∀ publisher, ∀ claimed ∈ (state.phase publisher).held,
    HeldAccount publisher (state.phase publisher).isClaiming (state.outbox.find claimed.event.id)
      (state.history claimed.event.id) (ledger claimed.event.id) claimed
  unsent : ∀ publisher, ∀ claimed ∈ (state.phase publisher).unsent,
    claimed.number ∈ (ledger claimed.event.id).charged ∧
      claimed.number ∉ (ledger claimed.event.id).sent
  distinct : ∀ publisher, ((state.phase publisher).held.map ClaimedEvent.key).Nodup
  apart : ∀ first second, first ≠ second → ∀ claimed ∈ (state.phase first).held,
    ∀ other ∈ (state.phase second).held, claimed.key ≠ other.key

omit [DecidableEq Instance] in
theorem RowAccount.empty (config : PublisherConfig) (known : Prop) :
    RowAccount config known (none : Option (OutboxEventEntity Instance Payload))
      { claims := 0, reclaims := 0, sends := 0 } .empty where
  reclaims := rfl
  sends := rfl
  distinct := List.nodup_nil
  charged := List.Subset.refl _
  budget := rfl
  numbered _ member := absurd member List.not_mem_nil
  spare _ member := absurd member List.not_mem_nil
  untouched _ := rfl
  waiting stored found := absurd found (Option.not_mem_none stored)
  working stored found := absurd found (Option.not_mem_none stored)
  ever := by
    have := config.maxAttempts_pos
    simp [Ledger.empty]
    omega

theorem AccountInvariant.initial (config : PublisherConfig) :
    AccountInvariant config (.initial : PublisherState Instance Payload) fun _ => .empty where
  rows _ := RowAccount.empty config _
  known _ _ member := absurd member List.not_mem_nil
  held _ _ member := absurd member List.not_mem_nil
  unsent _ _ member := absurd member List.not_mem_nil
  distinct _ := List.nodup_nil
  apart _ _ _ _ member := absurd member List.not_mem_nil

omit [DecidableEq Instance] in
/-- The sends of a row are within the budget of its books. -/
theorem RowAccount.sends_le {config : PublisherConfig} {known : Prop}
    {row : Option (OutboxEventEntity Instance Payload)} {history : RowHistory} {ledger : Ledger}
    (account : RowAccount config known row history ledger) :
    (history.sends : Int) ≤ config.maxAttempts +
      ledger.orphaned.length * (config.maxAttempts - 1) + history.reclaims := by
  have within := (account.distinct.subperm account.charged).length_le
  rw [account.sends, account.budget] at within
  have ever := account.ever
  omega

/-! ### The books after a step -/

section Books

variable {config : PublisherConfig} {known : Prop} {row : OutboxEventEntity Instance Payload}
  {history : RowHistory} {ledger : Ledger}

/-- The books after a claim: a claim of a pending row is fresh, any other takes over. -/
def Ledger.claim (ledger : Ledger) (claims : Nat) (reclaim : Bool) : Ledger :=
  { ledger with
    fresh := if reclaim then ledger.fresh else ledger.fresh + 1
    charged := (claims + 1) :: ledger.charged
    superseded := if reclaim then claims :: ledger.superseded else ledger.superseded }

def Ledger.send (ledger : Ledger) (number : Nat) : Ledger :=
  { ledger with sent := number :: ledger.sent }

/-- The books after a redrive: the claims not ended by a transition may still be sent. -/
def Ledger.redrive (ledger : Ledger) : Ledger :=
  { ledger with fresh := 0, charged := ledger.superseded ++ ledger.orphaned, sent := [] }

/-- The books after an outdated snapshot made a transition in place of the latest claim. -/
def Ledger.outdate (ledger : Ledger) (number claims : Nat) : Ledger :=
  { ledger with
    superseded := ledger.superseded.erase number
    orphaned := claims :: ledger.orphaned }

omit [DecidableEq Instance] in
theorem RowAccount.claimPending {input : ClaimPublishableOutboxEventsInput Instance}
    (account : RowAccount config known (some row) history ledger) (isKnown : known)
    (invariant : RowInvariant config row) (pending : row.status = .pending) :
    RowAccount config known (some (claimUpdate input row))
      { history with claims := history.claims + 1 } (ledger.claim history.claims false) := by
  have waiting := account.waiting row rfl (Or.inl pending)
  have left := (invariant.attempts_live (Or.inl pending)).2
  refine {
    reclaims := account.reclaims
    sends := account.sends
    distinct := account.distinct
    charged := List.subset_cons_of_subset _ account.charged
    budget := ?_
    numbered := fun number member => ?_
    spare := fun number member => Nat.le_succ_of_le (account.spare number member)
    untouched := fun unknown => absurd isKnown unknown
    waiting := fun stored found => ?_
    working := fun stored found _ => ?_
    ever := ?_ }
  · have budget := account.budget
    simp only [Ledger.claim, List.length_cons, Bool.false_eq_true, if_false]
    omega
  · rcases List.mem_cons.mp member with rfl | member
    · exact le_refl _
    · exact Nat.le_succ_of_le (account.numbered number member)
  · obtain rfl := Option.mem_some_iff.mp found
    rintro (impossible | impossible)
    · exact OutboxEventStatus.noConfusion impossible
    · exact OutboxEventStatus.noConfusion impossible
  · obtain rfl := Option.mem_some_iff.mp found
    simp only [Ledger.claim, claimUpdate, Bool.false_eq_true, if_false]
    push_cast
    omega
  · simp only [Ledger.claim, Bool.false_eq_true, if_false]
    push_cast
    omega

omit [DecidableEq Instance] in
theorem RowAccount.reclaim {input : ClaimPublishableOutboxEventsInput Instance}
    (account : RowAccount config known (some row) history ledger) (isKnown : known)
    (publishing : row.status = .publishing) :
    RowAccount config known (some (claimUpdate input row))
      { history with claims := history.claims + 1, reclaims := history.reclaims + 1 }
      (ledger.claim history.claims true) := by
  have working := account.working row rfl publishing
  refine {
    reclaims := ?_
    sends := account.sends
    distinct := account.distinct
    charged := List.subset_cons_of_subset _ account.charged
    budget := ?_
    numbered := fun number member => ?_
    spare := fun number member => ?_
    untouched := fun unknown => absurd isKnown unknown
    waiting := fun stored found => ?_
    working := fun stored found _ => ?_
    ever := account.ever }
  · have reclaims := account.reclaims
    simp only [Ledger.claim, List.length_cons, if_true]
    omega
  · have budget := account.budget
    simp only [Ledger.claim, List.length_cons, if_true]
    omega
  · rcases List.mem_cons.mp member with rfl | member
    · exact le_refl _
    · exact Nat.le_succ_of_le (account.numbered number member)
  · rcases List.mem_cons.mp member with rfl | member
    · exact Nat.le_succ _
    · exact Nat.le_succ_of_le (account.spare number member)
  · obtain rfl := Option.mem_some_iff.mp found
    rintro (impossible | impossible)
    · exact OutboxEventStatus.noConfusion impossible
    · exact OutboxEventStatus.noConfusion impossible
  · obtain rfl := Option.mem_some_iff.mp found
    exact working

omit [DecidableEq Instance] in
theorem RowAccount.claim {input : ClaimPublishableOutboxEventsInput Instance}
    (account : RowAccount config known (some row) history ledger) (isKnown : known)
    (invariant : RowInvariant config row) (eligible : claimFilter input row = true) :
    RowAccount config known (some (claimUpdate input row))
      { history with
        claims := history.claims + 1
        reclaims := history.reclaims + if row.status = .publishing then 1 else 0 }
      (ledger.claim history.claims (decide (row.status = .publishing))) := by
  rcases (claimFilter_iff input row).mp eligible with ⟨pending, _⟩ | ⟨publishing, _⟩
  · simp only [pending, reduceCtorEq, if_false, Nat.add_zero, decide_false]
    exact account.claimPending isKnown invariant pending
  · simp only [publishing, if_true, decide_true]
    exact account.reclaim isKnown publishing

omit [DecidableEq Instance] in
theorem RowAccount.send {stored : Option (OutboxEventEntity Instance Payload)} {number : Nat}
    (account : RowAccount config known stored history ledger) (charged : number ∈ ledger.charged)
    (fresh : number ∉ ledger.sent) :
    RowAccount config known stored { history with sends := history.sends + 1 }
      (ledger.send number) where
  reclaims := account.reclaims
  sends := by
    rw [← account.sends]
    rfl
  distinct := List.nodup_cons.mpr ⟨fresh, account.distinct⟩
  charged := List.cons_subset.mpr ⟨charged, account.charged⟩
  budget := account.budget
  numbered := account.numbered
  spare := account.spare
  untouched := account.untouched
  waiting := account.waiting
  working := account.working
  ever := account.ever

omit [DecidableEq Instance] in
theorem RowAccount.redrive {time : Int}
    (account : RowAccount config known (some row) history ledger) :
    RowAccount config known (some (redriveUpdate time row)) { history with sends := 0 }
      ledger.redrive := by
  have once := config.maxAttempts_pos
  have spare : (0 : Int) ≤ ledger.orphaned.length * (config.maxAttempts - 1) :=
    mul_nonneg (Int.natCast_nonneg _) (by omega)
  refine {
    reclaims := account.reclaims
    sends := rfl
    distinct := List.nodup_nil
    charged := List.nil_subset _
    budget := ?_
    numbered := account.spare
    spare := account.spare
    untouched := fun _ => rfl
    waiting := fun stored found _ => ?_
    working := fun stored found working => ?_
    ever := ?_ }
  · have reclaims := account.reclaims
    simp only [Ledger.redrive, List.length_append]
    omega
  · obtain rfl := Option.mem_some_iff.mp found
    simp only [Ledger.redrive, redriveUpdate]
    omega
  · obtain rfl := Option.mem_some_iff.mp found
    exact OutboxEventStatus.noConfusion working
  · simp only [Ledger.redrive]
    omega

omit [DecidableEq Instance] in
/-- A row nobody can send any more, whatever it still says of attempts. -/
theorem RowAccount.published {publishedAt : Int}
    (account : RowAccount config known (some row) history ledger) :
    RowAccount config known (some (publishedUpdate publishedAt row)) history ledger :=
  { account with
    waiting := fun stored found left => by
      obtain rfl := Option.mem_some_iff.mp found
      rcases left with impossible | impossible
      · exact OutboxEventStatus.noConfusion impossible
      · exact OutboxEventStatus.noConfusion impossible
    working := fun stored found publishing => by
      obtain rfl := Option.mem_some_iff.mp found
      exact OutboxEventStatus.noConfusion publishing }

omit [DecidableEq Instance] in
theorem RowAccount.absent {stored : Option (OutboxEventEntity Instance Payload)}
    (account : RowAccount config known stored history ledger) :
    RowAccount config known (none : Option (OutboxEventEntity Instance Payload)) history
      ledger :=
  { account with
    waiting := fun found member => absurd member (Option.not_mem_none found)
    working := fun found member => absurd member (Option.not_mem_none found) }

omit [DecidableEq Instance] in
theorem RowAccount.created {known' : Prop} {input : CreateOutboxEventInput Payload}
    (account : RowAccount config known (none : Option (OutboxEventEntity Instance Payload))
      history ledger) (fresh : ¬ known) (isKnown : known') :
    RowAccount config known' (some (input.entity : OutboxEventEntity Instance Payload)) history
      ledger :=
  { account with
    untouched := fun unknown => absurd isKnown unknown
    waiting := fun stored found _ => by
      obtain rfl := Option.mem_some_iff.mp found
      have once := config.maxAttempts_pos
      have spare : (0 : Int) ≤ ledger.orphaned.length * (config.maxAttempts - 1) :=
        mul_nonneg (Int.natCast_nonneg _) (by omega)
      rw [account.untouched fresh]
      simp only [CreateOutboxEventInput.entity]
      omega
    working := fun stored found publishing => by
      obtain rfl := Option.mem_some_iff.mp found
      exact OutboxEventStatus.noConfusion publishing }

omit [DecidableEq Instance] in
/-- The latest claim failed: the counter grows by one. -/
theorem RowAccount.failed {lockedBy : Instance} {event : OutboxEvent Instance Payload}
    {error : ThrownValue} {now : Int} {random : ℚ}
    (account : RowAccount config known (some row) history ledger)
    (publishing : row.status = .publishing) (attempts : row.attempts = event.attempts) :
    RowAccount config known (some (failureUpdate config lockedBy event error now random row))
      history ledger :=
  { account with
    waiting := fun stored found _ => by
      obtain rfl := Option.mem_some_iff.mp found
      rw [failureUpdate_attempts, ← attempts]
      exact account.working row rfl publishing
    working := fun stored found working => by
      obtain rfl := Option.mem_some_iff.mp found
      exact absurd working (failureUpdate_status _ _ _ _ _ _ row) }

omit [DecidableEq Instance] in
/-- An outdated snapshot failed: it may set the counter back, once for the reclaim that took
its claim over. -/
theorem RowAccount.outdate {lockedBy : Instance} {event : OutboxEvent Instance Payload}
    {error : ThrownValue} {now : Int} {random : ℚ} {number : Nat}
    (account : RowAccount config known (some row) history ledger)
    (snapshot : SnapshotInvariant config event) (outdated : number ∈ ledger.superseded) :
    RowAccount config known (some (failureUpdate config lockedBy event error now random row))
      history (ledger.outdate number history.claims) := by
  have once := config.maxAttempts_pos
  have ever := account.ever
  have nonneg := snapshot.1
  have longer : ((ledger.outdate number history.claims).orphaned.length : Int) *
      (config.maxAttempts - 1) =
      ledger.orphaned.length * (config.maxAttempts - 1) + (config.maxAttempts - 1) := by
    simp only [Ledger.outdate, List.length_cons]
    push_cast
    ring
  refine {
    reclaims := ?_
    sends := account.sends
    distinct := account.distinct
    charged := account.charged
    budget := account.budget
    numbered := account.numbered
    spare := fun other member => ?_
    untouched := account.untouched
    waiting := fun stored found _ => ?_
    working := fun stored found working => ?_
    ever := ?_ }
  · have reclaims := account.reclaims
    have positive := List.length_pos_of_mem outdated
    simp only [Ledger.outdate, List.length_erase_of_mem outdated, List.length_cons]
    omega
  · rcases List.mem_append.mp member with erased | orphaned
    · exact account.spare other (List.mem_append_left _ (List.mem_of_mem_erase erased))
    · rcases List.mem_cons.mp orphaned with rfl | orphaned
      · exact le_refl _
      · exact account.spare other (List.mem_append_right _ orphaned)
  · obtain rfl := Option.mem_some_iff.mp found
    rw [failureUpdate_attempts, longer]
    show (ledger.fresh : Int) ≤ _
    omega
  · obtain rfl := Option.mem_some_iff.mp found
    exact absurd working (failureUpdate_status _ _ _ _ _ _ row)
  · rw [longer]
    show (ledger.fresh : Int) ≤ _
    omega

omit [DecidableEq Instance] in
theorem RowAccount.mono {known' : Prop} {stored : Option (OutboxEventEntity Instance Payload)}
    (account : RowAccount config known stored history ledger) (later : known → known') :
    RowAccount config known' stored history ledger :=
  { account with
    untouched := fun unknown => account.untouched fun isKnown => unknown (later isKnown) }

end Books

/-! ### Held claims after a step -/

section Held

variable {config : PublisherConfig} {publisher : Instance} {claiming : Bool}
  {row : OutboxEventEntity Instance Payload} {history : RowHistory} {ledger : Ledger}
  {claimed : ClaimedEvent Instance Payload}

theorem HeldAccount.leave {stored : Option (OutboxEventEntity Instance Payload)}
    (account : HeldAccount publisher claiming stored history ledger claimed) :
    HeldAccount publisher false stored history ledger claimed :=
  { account with kept := fun impossible => absurd impossible Bool.noConfusion }

/-- The books of a held claim do not depend on what was sent. -/
theorem HeldAccount.congr {stored : Option (OutboxEventEntity Instance Payload)}
    {laterHistory : RowHistory} {laterBooks : Ledger}
    (account : HeldAccount publisher claiming stored history ledger claimed)
    (claims : laterHistory.claims = history.claims)
    (superseded : laterBooks.superseded = ledger.superseded)
    (orphaned : laterBooks.orphaned = ledger.orphaned) :
    HeldAccount publisher claiming stored laterHistory laterBooks claimed := by
  obtain ⟨numbered, left, publishing, owned, kept⟩ := account
  rw [← claims] at numbered publishing owned kept
  rw [← superseded, ← orphaned] at left publishing
  rw [← superseded] at owned kept
  exact ⟨numbered, left, publishing, owned, kept⟩

/-- A claim that finds the row publishing takes over the latest claim of the row. -/
theorem mem_superseded_claim (owner : Instance)
    (before : claimed.number ∈ ledger.superseded ∨
      lockOwnerFilter owner row = true ∧ claimed.number = history.claims) :
    claimed.number ∈
      (ledger.claim history.claims (decide (row.status = .publishing))).superseded := by
  unfold Ledger.claim
  dsimp only
  rcases before with member | ⟨owned, same⟩
  · split
    · exact List.mem_cons_of_mem _ member
    · exact member
  · rw [if_pos (decide_eq_true ((lockOwnerFilter_iff owner row).mp owned).2), same]
    exact List.mem_cons_self

theorem HeldAccount.claim {input : ClaimPublishableOutboxEventsInput Instance} {reclaims : Nat}
    (account : HeldAccount publisher claiming (some row) history ledger claimed)
    (eligible : claimFilter input row = true)
    (inLoop : input.lockedBy = publisher → claiming = true) :
    HeldAccount publisher claiming (some (claimUpdate input row))
      { history with claims := history.claims + 1, reclaims }
      (ledger.claim history.claims (decide (row.status = .publishing))) claimed := by
  refine {
    numbered := Nat.le_succ_of_le account.numbered
    left := fun stored found => ?_
    publishing := fun _ _ _ => Or.inl ?_
    owned := fun stored found owned => Or.inl ?_
    kept := fun loop => Or.inl ?_ }
  · obtain rfl := Option.mem_some_iff.mp found
    rintro (impossible | impossible)
    · exact OutboxEventStatus.noConfusion impossible
    · exact OutboxEventStatus.noConfusion impossible
  · rcases (claimFilter_iff input row).mp eligible with ⟨pending, _⟩ | ⟨publishing, _⟩
    · have member := account.left row rfl (Or.inl pending)
      simpa only [Ledger.claim, pending, reduceCtorEq, decide_false, Bool.false_eq_true,
        if_false] using member
    · have member := account.publishing row rfl publishing
      simp only [Ledger.claim, publishing, decide_true, if_true, List.cons_append]
      rcases member with member | same
      · exact List.mem_cons_of_mem _ member
      · rw [same]
        exact List.mem_cons_self
  · obtain rfl := Option.mem_some_iff.mp found
    have self := Option.some.inj ((lockOwnerFilter_iff publisher _).mp owned).1
    refine mem_superseded_claim publisher ?_
    rcases account.kept (inLoop self) with member | ⟨other, same, owned, number⟩
    · exact Or.inl member
    · exact Or.inr ⟨Option.some.inj same ▸ owned, number⟩
  · refine mem_superseded_claim publisher ?_
    rcases account.kept loop with member | ⟨other, same, owned, number⟩
    · exact Or.inl member
    · exact Or.inr ⟨Option.some.inj same ▸ owned, number⟩

/-- The snapshot a claim hands out. -/
theorem HeldAccount.fresh {input : ClaimPublishableOutboxEventsInput Instance}
    {event : OutboxEvent Instance Payload} {id : ObjectId} {reclaims : Nat} {reclaim : Bool}
    (handed : event = mapOutboxEvent id (claimUpdate input row))
    (self : input.lockedBy = publisher) :
    HeldAccount publisher claiming (some (claimUpdate input row))
      { history with claims := history.claims + 1, reclaims } (ledger.claim history.claims reclaim)
      ⟨event, history.claims + 1⟩ where
  numbered := le_refl _
  left stored found left := by
    obtain rfl := Option.mem_some_iff.mp found
    rcases left with impossible | impossible
    · exact OutboxEventStatus.noConfusion impossible
    · exact OutboxEventStatus.noConfusion impossible
  publishing _ _ _ := Or.inr rfl
  owned stored found _ := by
    obtain rfl := Option.mem_some_iff.mp found
    refine Or.inr ⟨rfl, ?_⟩
    rw [handed]
    rfl
  kept _ := by
    refine Or.inr ⟨_, rfl, (lockOwnerFilter_iff publisher _).mpr ⟨?_, rfl⟩, rfl⟩
    rw [← self]
    rfl

/-- What a held claim keeps when its row is not publishing any more. -/
theorem HeldAccount.of_left {next : Option (OutboxEventEntity Instance Payload)}
    {later : RowHistory} {books : Ledger} (numbered : claimed.number ≤ later.claims)
    (settled : ∀ stored ∈ next, stored.status ≠ .publishing)
    (left : ∀ stored ∈ next, stored.status = .pending ∨ stored.status = .failed →
      claimed.number ∈ books.superseded ++ books.orphaned)
    (kept : claiming = true → claimed.number ∈ books.superseded) :
    HeldAccount publisher claiming next later books claimed where
  numbered := numbered
  left := left
  publishing stored found publishing := absurd publishing (settled stored found)
  owned stored found owned :=
    absurd ((lockOwnerFilter_iff publisher stored).mp owned).2 (settled stored found)
  kept loop := Or.inl (kept loop)

/-- An instance in its claim loop keeps only claims it still owns or that were taken over. -/
theorem HeldAccount.kept_of_not_owned {stored : Option (OutboxEventEntity Instance Payload)}
    (account : HeldAccount publisher claiming stored history ledger claimed)
    (foreign : ∀ row ∈ stored, lockOwnerFilter publisher row = false) (loop : claiming = true) :
    claimed.number ∈ ledger.superseded := by
  rcases account.kept loop with member | ⟨row, rfl, owned, _⟩
  · exact member
  · rw [foreign row rfl] at owned
    exact absurd owned Bool.false_ne_true

theorem lockOwnerFilter_of_status {owner : Instance} {stored : OutboxEventEntity Instance Payload}
    (settled : stored.status ≠ .publishing) : lockOwnerFilter owner stored = false := by
  rw [← Bool.not_eq_true, lockOwnerFilter_iff]
  exact fun owned => settled owned.2

theorem lockOwnerFilter_of_other {owner other : Instance}
    {stored : OutboxEventEntity Instance Payload} (owned : lockOwnerFilter owner stored = true)
    (different : owner ≠ other) : lockOwnerFilter other stored = false := by
  rw [← Bool.not_eq_true, lockOwnerFilter_iff]
  intro ownedByOther
  have owner := ((lockOwnerFilter_iff _ stored).mp owned).1
  rw [ownedByOther.1] at owner
  exact different (Option.some.inj owner).symm

theorem HeldAccount.redrive {time : Int}
    (account : HeldAccount publisher claiming (some row) history ledger claimed)
    (failed : row.status = .failed) :
    HeldAccount publisher claiming (some (redriveUpdate time row)) { history with sends := 0 }
      ledger.redrive claimed := by
  refine .of_left account.numbered (fun stored found => ?_)
    (fun _ _ _ => account.left row rfl (Or.inr failed)) (account.kept_of_not_owned ?_)
  · obtain rfl := Option.mem_some_iff.mp found
    exact fun publishing => OutboxEventStatus.noConfusion publishing
  · intro stored found
    obtain rfl := Option.mem_some_iff.mp found
    refine lockOwnerFilter_of_status fun publishing => ?_
    rw [failed] at publishing
    exact OutboxEventStatus.noConfusion publishing

theorem HeldAccount.expire
    (account : HeldAccount publisher claiming (some row) history ledger claimed)
    (published : row.status = .published) :
    HeldAccount publisher claiming none history ledger claimed := by
  refine .of_left account.numbered (fun stored found => absurd found (Option.not_mem_none stored))
    (fun stored found => absurd found (Option.not_mem_none stored)) (account.kept_of_not_owned ?_)
  intro stored found
  obtain rfl := Option.mem_some_iff.mp found
  refine lockOwnerFilter_of_status fun publishing => ?_
  rw [published] at publishing
  exact OutboxEventStatus.noConfusion publishing

/-- A transition by the owner, seen by an instance that is not in its claim loop or does not
own the row. -/
theorem HeldAccount.publish {owner : Instance} {publishedAt : Int}
    (account : HeldAccount publisher claiming (some row) history ledger claimed)
    (owned : lockOwnerFilter owner row = true) (outside : claiming = true → owner ≠ publisher) :
    HeldAccount publisher claiming (some (publishedUpdate publishedAt row)) history ledger
      claimed := by
  refine .of_left account.numbered (fun stored found => ?_) (fun stored found => ?_) fun loop =>
    account.kept_of_not_owned (fun stored found => ?_) loop
  · obtain rfl := Option.mem_some_iff.mp found
    exact fun publishing => OutboxEventStatus.noConfusion publishing
  · obtain rfl := Option.mem_some_iff.mp found
    rintro (impossible | impossible)
    · exact OutboxEventStatus.noConfusion impossible
    · exact OutboxEventStatus.noConfusion impossible
  · obtain rfl := Option.mem_some_iff.mp found
    exact lockOwnerFilter_of_other owned (outside loop)

/-- The latest claim of the row failed; this is another claim. -/
theorem HeldAccount.failed {owner : Instance} {event : OutboxEvent Instance Payload}
    {error : ThrownValue} {now : Int} {random : ℚ}
    (account : HeldAccount publisher claiming (some row) history ledger claimed)
    (owned : lockOwnerFilter owner row = true) (outside : claiming = true → owner ≠ publisher)
    (earlier : claimed.number ≠ history.claims) :
    HeldAccount publisher claiming (some (failureUpdate config owner event error now random row))
      history ledger claimed := by
  refine .of_left account.numbered (fun stored found => ?_) (fun _ _ _ => ?_) fun loop =>
    account.kept_of_not_owned (fun stored found => ?_) loop
  · obtain rfl := Option.mem_some_iff.mp found
    exact failureUpdate_status _ _ _ _ _ _ row
  · rcases account.publishing row rfl ((lockOwnerFilter_iff owner row).mp owned).2 with
      member | same
    · exact member
    · exact absurd same earlier
  · obtain rfl := Option.mem_some_iff.mp found
    exact lockOwnerFilter_of_other owned (outside loop)

/-- An outdated snapshot of the row failed; this is another claim. -/
theorem HeldAccount.outdate {owner : Instance} {event : OutboxEvent Instance Payload}
    {error : ThrownValue} {now : Int} {random : ℚ} {number : Nat}
    (account : HeldAccount publisher claiming (some row) history ledger claimed)
    (owned : lockOwnerFilter owner row = true) (outside : claiming = true → owner ≠ publisher)
    (different : claimed.number ≠ number) :
    HeldAccount publisher claiming (some (failureUpdate config owner event error now random row))
      history (ledger.outdate number history.claims) claimed := by
  have kept : claiming = true → claimed.number ∈ ledger.superseded := fun loop => by
    refine account.kept_of_not_owned (fun stored found => ?_) loop
    obtain rfl := Option.mem_some_iff.mp found
    exact lockOwnerFilter_of_other owned (outside loop)
  refine .of_left account.numbered (fun stored found => ?_) (fun _ _ _ => ?_) fun loop =>
    (List.mem_erase_of_ne different).mpr (kept loop)
  · obtain rfl := Option.mem_some_iff.mp found
    exact failureUpdate_status _ _ _ _ _ _ row
  · rcases account.publishing row rfl ((lockOwnerFilter_iff owner row).mp owned).2 with
      member | same
    · rcases List.mem_append.mp member with superseded | orphaned
      · exact List.mem_append_left _ ((List.mem_erase_of_ne different).mpr superseded)
      · exact List.mem_append_right _ (List.mem_cons_of_mem _ orphaned)
    · rw [same]
      exact List.mem_append_right _ List.mem_cons_self

end Held

/-! ### One step -/

section Step

variable {config : PublisherConfig} {state next written : PublisherState Instance Payload}
  {ledger later : ObjectId → Ledger} {publisher : Instance}

theorem AccountInvariant.setPhase {phase : Phase Instance Payload}
    (invariant : AccountInvariant config state ledger)
    (held : phase.held.Sublist (state.phase publisher).held)
    (unsent : phase.unsent.Sublist (state.phase publisher).unsent)
    (leaves : phase.isClaiming = false) :
    AccountInvariant config (state.setPhase publisher phase) ledger := by
  have fewer : ∀ other, ∀ claimed ∈ ((state.setPhase publisher phase).phase other).held,
      claimed ∈ (state.phase other).held :=
    fun other claimed member => mem_held_setPhase held.subset member
  refine ⟨invariant.rows,
    fun other claimed member => invariant.known other claimed (fewer _ _ member),
    fun other claimed member => ?_, fun other claimed member => ?_, fun other => ?_,
    fun first second different claimed member other otherMember =>
      invariant.apart first second different claimed (fewer _ _ member) other
        (fewer _ _ otherMember)⟩
  · have account := invariant.held other claimed (fewer other claimed member)
    rw [setPhase_phase]
    split
    · rw [leaves]
      exact account.leave
    · exact account
  · rw [setPhase_phase] at member
    split at member
    · exact invariant.unsent publisher claimed (unsent.subset member)
    · exact invariant.unsent other claimed member
  · rw [setPhase_phase]
    split
    · exact (invariant.distinct publisher).sublist (held.map ClaimedEvent.key)
    · exact invariant.distinct other

/-- Writing a row moves its books; the other rows and the phases stay. -/
theorem AccountInvariant.rewritten (invariant : AccountInvariant config state ledger)
    (phases : written.phase = state.phase)
    (keys : ∀ id ∈ state.outbox.keys, id ∈ written.outbox.keys)
    (rows : ∀ id, RowAccount config (id ∈ written.outbox.keys) (written.outbox.find id)
      (written.history id) (later id))
    (held : ∀ publisher, ∀ claimed ∈ (state.phase publisher).held,
      HeldAccount publisher (state.phase publisher).isClaiming
        (written.outbox.find claimed.event.id) (written.history claimed.event.id)
        (later claimed.event.id) claimed)
    (unsent : ∀ publisher, ∀ claimed ∈ (state.phase publisher).unsent,
      claimed.number ∈ (later claimed.event.id).charged ∧
        claimed.number ∉ (later claimed.event.id).sent) :
    AccountInvariant config written later := by
  refine ⟨rows, fun publisher claimed member => ?_, ?_, ?_, ?_, ?_⟩
  · rw [phases] at member
    exact keys _ (invariant.known publisher claimed member)
  · rw [phases]
    exact held
  · rw [phases]
    exact unsent
  · rw [phases]
    exact invariant.distinct
  · rw [phases]
    exact invariant.apart

/-- Writing one row moves its books only. -/
theorem AccountInvariant.rewrittenAt (invariant : AccountInvariant config state ledger)
    {id : ObjectId} (books : Ledger) (phases : written.phase = state.phase)
    (keys : ∀ id ∈ state.outbox.keys, id ∈ written.outbox.keys)
    (elsewhere : ∀ other, other ≠ id → written.outbox.find other = state.outbox.find other ∧
      written.history other = state.history other)
    (row : RowAccount config (id ∈ written.outbox.keys) (written.outbox.find id)
      (written.history id) books)
    (held : ∀ publisher, ∀ claimed ∈ (state.phase publisher).held, claimed.event.id = id →
      HeldAccount publisher (state.phase publisher).isClaiming (state.outbox.find id)
        (state.history id) (ledger id) claimed →
      HeldAccount publisher (state.phase publisher).isClaiming (written.outbox.find id)
        (written.history id) books claimed)
    (unsent : ∀ number, number ∈ (ledger id).charged ∧ number ∉ (ledger id).sent →
      number ∈ books.charged ∧ number ∉ books.sent) :
    AccountInvariant config written (Function.update ledger id books) := by
  refine invariant.rewritten phases keys (fun other => ?_) (fun publisher claimed member => ?_)
    (fun publisher claimed member => ?_)
  · by_cases same : other = id
    · rw [same, Function.update_self]
      exact row
    · rw [Function.update_of_ne same, (elsewhere other same).1, (elsewhere other same).2]
      exact (invariant.rows other).mono (keys other)
  · have account := invariant.held publisher claimed member
    by_cases same : claimed.event.id = id
    · rw [same] at account
      rw [same, Function.update_self]
      exact held publisher claimed member same account
    · rw [Function.update_of_ne same, (elsewhere _ same).1, (elsewhere _ same).2]
      exact account
  · have charged := invariant.unsent publisher claimed member
    by_cases same : claimed.event.id = id
    · rw [same] at charged
      rw [same, Function.update_self]
      exact unsent claimed.number charged
    · rw [Function.update_of_ne same]
      exact charged

omit [DecidableEq Instance] in
theorem mem_held_of_unsent {phase : Phase Instance Payload}
    {claimed : ClaimedEvent Instance Payload} (member : claimed ∈ phase.unsent) :
    claimed ∈ phase.held := by
  cases phase with
  | marking => exact List.mem_cons_of_mem _ member
  | failing => exact List.mem_cons_of_mem _ member
  | _ => exact member

/-- What an operation from outside does to the books of a row and to a held claim of it. -/
theorem OutsideRow.account {time : Int} {known known' : Prop}
    {before after : Option (OutboxEventEntity Instance Payload)} {history laterHistory : RowHistory}
    {books : Ledger} (change : OutsideRow time known before history after laterHistory)
    (account : RowAccount config known before history books) (keeps : known → known')
    (stays : after ≠ none → known') :
    ∃ laterBooks, RowAccount config known' after laterHistory laterBooks ∧
      laterBooks.orphaned = books.orphaned ∧
      ∀ publisher claiming claimed, known →
        HeldAccount publisher claiming before history books claimed →
          HeldAccount publisher claiming after laterHistory laterBooks claimed ∧
          (claimed.number ∈ books.charged ∧ claimed.number ∉ books.sent →
            claimed.number ∈ laterBooks.charged ∧ claimed.number ∉ laterBooks.sent) := by
  cases change with
  | same =>
    exact ⟨books, account.mono keeps, rfl, fun _ _ _ _ held => ⟨held, id⟩⟩
  | created input _ fresh =>
    exact ⟨books, account.created fresh (stays (Option.some_ne_none _)), rfl,
      fun _ _ _ isKnown _ => absurd isKnown fresh⟩
  | redriven row _ failed =>
    refine ⟨books.redrive, account.redrive.mono keeps, rfl,
      fun _ _ claimed _ held => ⟨held.redrive failed, fun _ => ?_⟩⟩
    exact ⟨held.left row rfl (Or.inr failed), List.not_mem_nil⟩
  | expired row _ published =>
    exact ⟨books, account.absent.mono keeps, rfl, fun _ _ _ _ held => ⟨held.expire published, id⟩⟩

theorem AccountInvariant.environment {time : Int} {action : PublisherAction Instance Payload}
    {write : OutboxAction Instance Payload} (invariant : AccountInvariant config state ledger)
    (outside : environmentWrite time action = some write)
    (wrote : state.write config write = some next) :
    ∃ later, AccountInvariant config next later ∧
      ∀ id, (later id).orphaned = (ledger id).orphaned := by
  have change : ∀ id, ∃ books,
      RowAccount config (id ∈ next.outbox.keys) (next.outbox.find id) (next.history id) books ∧
      books.orphaned = (ledger id).orphaned ∧
      ∀ publisher claiming claimed, id ∈ state.outbox.keys →
        HeldAccount publisher claiming (state.outbox.find id) (state.history id) (ledger id)
          claimed →
          HeldAccount publisher claiming (next.outbox.find id) (next.history id) books claimed ∧
          (claimed.number ∈ (ledger id).charged ∧ claimed.number ∉ (ledger id).sent →
            claimed.number ∈ books.charged ∧ claimed.number ∉ books.sent) :=
    fun id => (environment_row outside wrote id).account (invariant.rows id) (mem_keys_write wrote)
      (next.outbox.known id)
  choose later rows orphaned claims using change
  refine ⟨later, invariant.rewritten (phase_of_write wrote) (fun id => mem_keys_write wrote) rows
    (fun publisher claimed member => ?_) (fun publisher claimed member => ?_), orphaned⟩
  · exact (claims claimed.event.id publisher _ claimed (invariant.known publisher claimed member)
      (invariant.held publisher claimed member)).1
  · have member' := mem_held_of_unsent member
    exact (claims claimed.event.id publisher _ claimed (invariant.known publisher claimed member')
      (invariant.held publisher claimed member')).2 (invariant.unsent publisher claimed member)

/-- The books after a claim. -/
theorem AccountInvariant.claim (invariant : AccountInvariant config state ledger)
    (valid : PublisherInvariant config state) {now : Int}
    {batch : List (ClaimedEvent Instance Payload)}
    (was : state.phase publisher = .claiming now batch)
    {event : OutboxEvent Instance Payload} {collection : OutboxCollection Instance Payload}
    (found : claimOne (config.claimInput publisher now) state.outbox = some (event, collection))
    (wrote : state.write config (.claim publisher now) = some written) :
    ∃ books : Ledger, ∃ reclaims reclaim,
      books = (ledger event.id).claim (state.history event.id).claims reclaim ∧
      written.history event.id = { state.history event.id with
        claims := (state.history event.id).claims + 1, reclaims } ∧
      AccountInvariant config written (Function.update ledger event.id books) := by
  obtain ⟨row, stored, eligible, _, stores, history⟩ := write_claim_self found wrote
  refine ⟨_, _, decide (row.status = .publishing), rfl, history, ?_⟩
  have rowBooks := invariant.rows event.id
  rw [stored] at rowBooks
  have known := Collection.mem_keys_of_find stored
  refine invariant.rewrittenAt _ (phase_of_write wrote) (fun id => mem_keys_write wrote)
    (fun other different => write_claim_other found wrote different) ?_
    (fun other claimed member same account => ?_)
    fun number charged => ⟨List.mem_cons_of_mem _ charged.1, charged.2⟩
  · rw [stores, history]
    exact (rowBooks.claim known (valid.rows event.id row stored) eligible).mono
      (mem_keys_write wrote)
  · rw [stored] at account
    rw [stores, history]
    refine account.claim eligible fun self => ?_
    have self : publisher = other := self
    rw [← self, was]
    rfl

/-- A snapshot whose claim nobody holds yet joins the batch of an instance in its loop. -/
theorem AccountInvariant.joined (invariant : AccountInvariant config state ledger) {now : Int}
    {batch : List (ClaimedEvent Instance Payload)}
    (was : state.phase publisher = .claiming now batch) {new : ClaimedEvent Instance Payload}
    (known : new.event.id ∈ state.outbox.keys)
    (held : HeldAccount publisher true (state.outbox.find new.event.id)
      (state.history new.event.id) (ledger new.event.id) new)
    (unsent : new.number ∈ (ledger new.event.id).charged ∧
      new.number ∉ (ledger new.event.id).sent)
    (fresh : ∀ other, ∀ claimed ∈ (state.phase other).held, claimed.key ≠ new.key) :
    AccountInvariant config (state.setPhase publisher (.claiming now (batch ++ [new]))) ledger := by
  have grown : ∀ other, ∀ claimed ∈
      ((state.setPhase publisher (.claiming now (batch ++ [new]))).phase other).held,
      claimed ∈ (state.phase other).held ∨ other = publisher ∧ claimed = new := by
    intro other claimed member
    rw [setPhase_phase] at member
    split at member
    · rename_i self
      rw [self, was]
      exact (List.mem_append.mp member).imp_right fun last => ⟨rfl, List.mem_singleton.mp last⟩
    · exact Or.inl member
  have claims : ∀ other,
      ((state.setPhase publisher (.claiming now (batch ++ [new]))).phase other).isClaiming =
        (state.phase other).isClaiming := by
    intro other
    rw [setPhase_phase]
    split
    · rename_i self
      rw [self, was]
      rfl
    · rfl
  refine ⟨invariant.rows, fun other claimed member => ?_, fun other claimed member => ?_,
    fun other claimed member => ?_, fun other => ?_,
    fun first second different claimed member other otherMember => ?_⟩
  · rcases grown other claimed member with old | ⟨_, rfl⟩
    · exact invariant.known other claimed old
    · exact known
  · rw [claims]
    rcases grown other claimed member with old | ⟨rfl, rfl⟩
    · exact invariant.held other claimed old
    · rw [was]
      exact held
  · rw [setPhase_phase] at member
    split at member
    · rcases List.mem_append.mp member with old | last
      · refine invariant.unsent publisher claimed ?_
        rw [was]
        exact old
      · rw [List.mem_singleton.mp last]
        exact unsent
    · exact invariant.unsent other claimed member
  · rw [setPhase_phase]
    split
    · show (List.map ClaimedEvent.key (batch ++ [new])).Nodup
      have distinct := invariant.distinct publisher
      rw [was] at distinct
      rw [List.map_append, List.map_singleton, List.nodup_append]
      refine ⟨distinct, List.nodup_singleton _, fun first firstMember second secondMember => ?_⟩
      obtain ⟨claimed, member, rfl⟩ := List.mem_map.mp firstMember
      rw [List.mem_singleton.mp secondMember]
      refine fresh publisher claimed ?_
      rw [was]
      exact member
    · exact invariant.distinct other
  · rcases grown first claimed member with old | ⟨rfl, rfl⟩
    · rcases grown second other otherMember with otherOld | ⟨_, rfl⟩
      · exact invariant.apart first second different claimed old other otherOld
      · exact fresh first claimed old
    · rcases grown second other otherMember with otherOld | ⟨same, _⟩
      · exact (fresh second other otherOld).symm
      · exact absurd same.symm different

/-- A claim joins the batch with the number it has among the claims of its row. -/
theorem AccountInvariant.join (invariant : AccountInvariant config state ledger)
    (valid : PublisherInvariant config state) {now : Int}
    {batch : List (ClaimedEvent Instance Payload)}
    (was : state.phase publisher = .claiming now batch)
    {event : OutboxEvent Instance Payload} {collection : OutboxCollection Instance Payload}
    (found : claimOne (config.claimInput publisher now) state.outbox = some (event, collection))
    (wrote : state.write config (.claim publisher now) = some written) :
    ∃ later, AccountInvariant config (written.setPhase publisher
        (.claiming now (batch ++ [⟨event, (state.history event.id).claims + 1⟩]))) later ∧
      ∀ id, (later id).orphaned = (ledger id).orphaned := by
  obtain ⟨books, reclaims, reclaim, rfl, history, after⟩ :=
    invariant.claim valid was found wrote
  obtain ⟨row, stored, _, handed, stores, _⟩ := write_claim_self found wrote
  have phases := phase_of_write wrote
  have claiming : written.phase publisher = .claiming now batch := by rw [phases, was]
  refine ⟨_, after.joined claiming (Collection.mem_keys_of_find stores) ?_ ?_
    fun other claimed member same => ?_, fun id => ?_⟩
  · dsimp only
    rw [stores, history, Function.update_self]
    exact .fresh handed rfl
  · dsimp only
    rw [Function.update_self]
    refine ⟨List.mem_cons_self, fun sent => ?_⟩
    have account := invariant.rows event.id
    have numbered := account.numbered _ (account.charged sent)
    exact absurd numbered (Nat.not_succ_le_self _)
  · rw [phases] at member
    obtain ⟨sameId, number⟩ := Prod.mk.inj same
    have numbered := (invariant.held other claimed member).numbered
    have sameId : claimed.event.id = event.id := sameId
    have number : claimed.number = (state.history event.id).claims + 1 := number
    rw [sameId, number] at numbered
    exact absurd numbered (Nat.not_succ_le_self _)
  · by_cases same : id = event.id
    · rw [same, Function.update_self]
      rfl
    · rw [Function.update_of_ne same]

/-- Another held claim is not the one an instance works on. -/
theorem AccountInvariant.ne_current (invariant : AccountInvariant config state ledger)
    {current : ClaimedEvent Instance Payload} {rest : List (ClaimedEvent Instance Payload)}
    (was : (state.phase publisher).held = current :: rest) {other : Instance}
    {claimed : ClaimedEvent Instance Payload} (member : claimed ∈ (state.phase other).held)
    (beside : other = publisher → claimed ∈ rest) (same : claimed.event.id = current.event.id) :
    claimed.number ≠ current.number := by
  intro number
  have key : claimed.key = current.key := Prod.ext same number
  by_cases self : other = publisher
  · have distinct := invariant.distinct publisher
    rw [was, List.map_cons, List.nodup_cons] at distinct
    exact distinct.1 (key ▸ List.mem_map_of_mem (beside self))
  · refine invariant.apart other publisher self claimed member current ?_ key
    rw [was]
    exact List.mem_cons_self

theorem AccountInvariant.send (invariant : AccountInvariant config state ledger)
    {current : ClaimedEvent Instance Payload} {rest : List (ClaimedEvent Instance Payload)}
    {phase : Phase Instance Payload} (was : state.phase publisher = .publishing (current :: rest))
    (held : phase.held = current :: rest) (unsent : phase.unsent = rest)
    (leaves : phase.isClaiming = false) :
    AccountInvariant config ((state.countSend current.event.id).setPhase publisher phase)
      (Function.update ledger current.event.id
        ((ledger current.event.id).send current.number)) := by
  have current_unsent : current ∈ (state.phase publisher).unsent := by
    rw [was]
    exact List.mem_cons_self
  have heldBefore : (state.phase publisher).held = current :: rest := by
    rw [was]
    rfl
  obtain ⟨charged, notSent⟩ := invariant.unsent publisher current current_unsent
  have histories : ∀ id, ((state.countSend current.event.id).history id).claims =
      (state.history id).claims := countSend_claims state current.event.id
  have members : ∀ other, ∀ claimed ∈
      (((state.countSend current.event.id).setPhase publisher phase).phase other).held,
      claimed ∈ (state.phase other).held := by
    intro other claimed member
    rw [setPhase_phase] at member
    split at member
    · rename_i same
      rw [same, heldBefore, ← held]
      exact member
    · exact member
  refine ⟨fun id => ?_,
    fun other claimed member => invariant.known other claimed (members _ _ member),
    fun other claimed member => ?_, fun other claimed member => ?_, fun other => ?_,
    fun first second different claimed member other otherMember =>
      invariant.apart first second different claimed (members _ _ member) other
        (members _ _ otherMember)⟩
  · show RowAccount config (id ∈ state.outbox.keys) (state.outbox.find id)
      ((state.countSend current.event.id).history id) _
    unfold PublisherState.countSend
    dsimp only
    by_cases same : id = current.event.id
    · subst same
      rw [if_pos rfl, Function.update_self]
      exact (invariant.rows current.event.id).send charged notSent
    · rw [if_neg same, Function.update_of_ne same]
      exact invariant.rows id
  · have account := invariant.held other claimed (members _ _ member)
    have counted : HeldAccount other (state.phase other).isClaiming
        (state.outbox.find claimed.event.id)
        ((state.countSend current.event.id).history claimed.event.id)
        (Function.update ledger current.event.id
          ((ledger current.event.id).send current.number) claimed.event.id) claimed := by
      by_cases same : claimed.event.id = current.event.id
      · rw [same, Function.update_self]
        rw [same] at account
        exact account.congr (histories _) rfl rfl
      · rw [Function.update_of_ne same]
        exact account.congr (histories _) rfl rfl
    rw [setPhase_phase]
    split
    · rw [leaves]
      exact counted.leave
    · exact counted
  · have before : claimed ∈ (state.phase other).unsent ∧ (other = publisher → claimed ∈ rest) := by
      rw [setPhase_phase] at member
      split at member
      · rename_i self
        rw [unsent] at member
        rw [self, was]
        exact ⟨List.mem_cons_of_mem _ member, fun _ => member⟩
      · rename_i different
        exact ⟨member, fun self => absurd self different⟩
    have account := invariant.unsent other claimed before.1
    by_cases same : claimed.event.id = current.event.id
    · have number := invariant.ne_current heldBefore (mem_held_of_unsent before.1) before.2 same
      rw [same] at account
      rw [same, Function.update_self]
      exact ⟨account.1, List.not_mem_cons_of_ne_of_not_mem number account.2⟩
    · rw [Function.update_of_ne same]
      exact account
  · rw [setPhase_phase]
    split
    · rw [held, ← heldBefore]
      exact invariant.distinct publisher
    · exact invariant.distinct other

omit [DecidableEq Instance] in
/-- Who is past the loop of its claim is not the one in the loop. -/
theorem ne_of_isClaiming (past : (state.phase publisher).isClaiming = false) {other : Instance}
    (loop : (state.phase other).isClaiming = true) : publisher ≠ other := by
  rintro rfl
  exact absurd loop (Bool.eq_false_iff.mp past)

theorem AccountInvariant.mark (invariant : AccountInvariant config state ledger)
    {current : ClaimedEvent Instance Payload} {rest : List (ClaimedEvent Instance Payload)}
    {time : Int} (was : state.phase publisher = .marking current rest)
    (wrote : state.write config (.markPublished publisher current.event time) = some written) :
    AccountInvariant config written ledger := by
  refine invariant.rewritten (phase_of_write wrote) (fun id => mem_keys_write wrote) (fun id => ?_)
    (fun other claimed member => ?_) invariant.unsent
  · have account := invariant.rows id
    obtain ⟨history, same | ⟨row, _, stored, _, stores⟩⟩ := write_markPublished_row wrote id
    · rw [history, same]
      exact account.mono (mem_keys_write wrote)
    · rw [stored] at account
      rw [history, stores]
      exact account.published.mono (mem_keys_write wrote)
  · have account := invariant.held other claimed member
    obtain ⟨history, same | ⟨row, _, stored, owned, stores⟩⟩ :=
      write_markPublished_row wrote claimed.event.id
    · rw [history, same]
      exact account
    · rw [stored] at account
      rw [history, stores]
      exact account.publish owned (ne_of_isClaiming (by rw [was]; rfl))

/-- A recorded failure, by the latest claim of the row or by an outdated one. The instance is
done with its snapshot afterwards, so its phase changes in the same breath. -/
theorem AccountInvariant.fail (invariant : AccountInvariant config state ledger)
    (valid : PublisherInvariant config state) {current : ClaimedEvent Instance Payload}
    {error : ThrownValue} {rest : List (ClaimedEvent Instance Payload)} {time : Int} {random : ℚ}
    (was : state.phase publisher = .failing current error rest)
    (wrote : state.write config
      (.handlePublishFailure publisher current.event error time random) = some written) :
    ∃ later, AccountInvariant config (written.setPhase publisher (.publishing rest)) later ∧
      (Tenure state publisher current → ∀ id, (later id).orphaned = (ledger id).orphaned) := by
  have heldBefore : (state.phase publisher).held = current :: rest := by
    rw [was]
    rfl
  have released : AccountInvariant config (state.setPhase publisher (.publishing rest)) ledger := by
    refine invariant.setPhase ?_ ?_ rfl
    · rw [was]
      exact List.sublist_cons_self _ _
    · rw [was]
      exact List.Sublist.refl _
  have phases : (written.setPhase publisher (.publishing rest)).phase =
      (state.setPhase publisher (.publishing rest)).phase := by
    funext other
    rw [setPhase_phase, setPhase_phase, phase_of_write wrote]
  -- The claim that failed is not held any more, and its instance is past its loop.
  have others : ∀ other,
      ∀ claimed ∈ ((state.setPhase publisher (.publishing rest)).phase other).held,
      claimed.event.id = current.event.id → claimed.number ≠ current.number := by
    intro other claimed member
    rw [setPhase_phase] at member
    split at member
    · rename_i self
      have before : claimed ∈ (state.phase other).held := by
        rw [self, heldBefore]
        exact List.mem_cons_of_mem _ member
      exact invariant.ne_current heldBefore before fun _ => member
    · rename_i different
      exact invariant.ne_current heldBefore member fun self => absurd self different
  have outside : ∀ other,
      ((state.setPhase publisher (.publishing rest)).phase other).isClaiming = true →
        publisher ≠ other := by
    intro other
    refine ne_of_isClaiming ?_
    rw [setPhase_phase, if_pos rfl]
    rfl
  have histories : ∀ id, written.history id = state.history id := fun id =>
    (write_handlePublishFailure_row wrote id).1
  have elsewhere : ∀ id, id ≠ current.event.id →
      written.outbox.find id = state.outbox.find id ∧ written.history id = state.history id := by
    intro id different
    refine ⟨?_, histories id⟩
    obtain ⟨_, same | ⟨_, here, _⟩⟩ := write_handlePublishFailure_row wrote id
    · exact same
    · exact absurd here different
  have rowBooks := invariant.rows current.event.id
  obtain ⟨_, same | ⟨row, _, stored, owned, stores⟩⟩ :=
    write_handlePublishFailure_row wrote current.event.id
  · refine ⟨ledger, ?_, fun _ _ => rfl⟩
    rw [← Function.update_eq_self current.event.id ledger]
    refine released.rewrittenAt _ phases (fun id => mem_keys_write wrote) elsewhere ?_
      (fun other claimed member here account => ?_) fun _ unsent => unsent
    · show RowAccount _ _ (written.outbox.find _) (written.history _) _
      rw [same, histories]
      exact rowBooks.mono (mem_keys_write wrote)
    · show HeldAccount _ _ (written.outbox.find _) (written.history _) _ _
      rw [same, histories]
      exact account
  have held := invariant.held publisher current (by
    rw [heldBefore]
    exact List.mem_cons_self)
  have publishing := ((lockOwnerFilter_iff publisher row).mp owned).2
  rw [stored] at rowBooks
  by_cases latest : current.number = (state.history current.event.id).claims ∧
      row.attempts = current.event.attempts
  · refine ⟨ledger, ?_, fun _ _ => rfl⟩
    rw [← Function.update_eq_self current.event.id ledger]
    refine released.rewrittenAt _ phases (fun id => mem_keys_write wrote) elsewhere ?_
      (fun other claimed member here account => ?_) fun _ unsent => unsent
    · show RowAccount _ _ (written.outbox.find _) (written.history _) _
      rw [stores, histories]
      exact (rowBooks.failed publishing latest.2).mono (mem_keys_write wrote)
    · have account : HeldAccount other _ (state.outbox.find current.event.id)
        (state.history current.event.id) _ claimed := account
      show HeldAccount _ _ (written.outbox.find _) (written.history _) _ _
      rw [stored] at account
      rw [stores, histories]
      exact account.failed owned (outside other) (latest.1 ▸ others other claimed member here)
  · have outdated : current.number ∈ (ledger current.event.id).superseded := by
      rcases held.owned row stored owned with member | is
      · exact member
      · exact absurd is latest
    have snapshot := valid.snapshots publisher current (by
      rw [heldBefore]
      exact List.mem_cons_self)
    refine ⟨Function.update ledger current.event.id ((ledger current.event.id).outdate
      current.number (state.history current.event.id).claims), ?_, fun tenure => ?_⟩
    · refine released.rewrittenAt _ phases (fun id => mem_keys_write wrote) elsewhere ?_
        (fun other claimed member here account => ?_) fun _ unsent => unsent
      · show RowAccount _ _ (written.outbox.find _) (written.history _) _
        rw [stores, histories]
        exact (rowBooks.outdate snapshot outdated).mono (mem_keys_write wrote)
      · have account : HeldAccount other _ (state.outbox.find current.event.id)
          (state.history current.event.id) _ claimed := account
        show HeldAccount _ _ (written.outbox.find _) (written.history _) _ _
        rw [stored] at account
        rw [stores, histories]
        exact account.outdate owned (outside other) (others other claimed member here)
    · obtain ⟨claims, attempts⟩ := tenure row stored owned
      exact absurd ⟨claims.symm, attempts⟩ latest

theorem setPhase_setPhase (first second : Phase Instance Payload) :
    (state.setPhase publisher first).setPhase publisher second =
      state.setPhase publisher second := by
  unfold PublisherState.setPhase
  congr 1
  funext other
  dsimp only
  split
  · rfl
  · rfl

/-- Every step keeps books; without outdated transitions nothing is orphaned. -/
theorem PublisherMove.account {time : Int} {action : PublisherAction Instance Payload}
    (move : PublisherMove config state time action next) (valid : PublisherInvariant config state)
    (invariant : AccountInvariant config state ledger) :
    ∃ later, AccountInvariant config next later ∧
      ((∀ publisher, ∀ claimed ∈ (state.phase publisher).held, Tenure state publisher claimed) →
        ∀ id, (later id).orphaned = (ledger id).orphaned) := by
  cases move with
  | environment outside wrote =>
    obtain ⟨later, account, orphaned⟩ := invariant.environment outside wrote
    exact ⟨later, account, fun _ => orphaned⟩
  | startRun publisher was =>
    have idle : (state.phase publisher).held = [] := by
      rw [was]
      rfl
    refine ⟨ledger, ⟨invariant.rows, fun other claimed member => ?_, fun other claimed member => ?_,
      fun other claimed member => ?_, fun other => ?_,
      fun first second different claimed member other otherMember => ?_⟩, fun _ _ => rfl⟩
    · rw [setPhase_phase] at member
      split at member
      · exact absurd member List.not_mem_nil
      · exact invariant.known other claimed member
    · rw [setPhase_phase] at member ⊢
      split at member
      · exact absurd member List.not_mem_nil
      · rename_i different
        rw [if_neg different]
        exact invariant.held other claimed member
    · rw [setPhase_phase] at member
      split at member
      · exact absurd member List.not_mem_nil
      · exact invariant.unsent other claimed member
    · rw [setPhase_phase]
      split
      · exact List.nodup_nil
      · exact invariant.distinct other
    · rw [setPhase_phase] at member otherMember
      split at member
      · exact absurd member List.not_mem_nil
      · split at otherMember
        · exact absurd otherMember List.not_mem_nil
        · exact invariant.apart first second different claimed member other otherMember
  | released publisher phase held unsent leaves =>
    exact ⟨ledger, invariant.setPhase held unsent leaves, fun _ _ => rfl⟩
  | claimed publisher now batch event collection written phase was found wrote becomes =>
    rcases becomes with rfl | rfl
    · obtain ⟨later, account, orphaned⟩ := invariant.join valid was found wrote
      exact ⟨later, account, fun _ => orphaned⟩
    · obtain ⟨books, _, _, rfl, _, account⟩ := invariant.claim valid was found wrote
      refine ⟨_, account.setPhase (List.nil_sublist _) (List.nil_sublist _) rfl, fun _ id => ?_⟩
      by_cases same : id = event.id
      · rw [same, Function.update_self]
        rfl
      · rw [Function.update_of_ne same]
  | sent publisher outcome current rest phase was held unsent leaves =>
    refine ⟨_, invariant.send was held unsent leaves, fun _ id => ?_⟩
    by_cases same : id = current.event.id
    · rw [same, Function.update_self]
      rfl
    · rw [Function.update_of_ne same]
  | marked publisher current rest written phase was wrote held unsent leaves =>
    refine ⟨ledger, (invariant.mark was wrote).setPhase ?_ ?_ leaves, fun _ _ => rfl⟩
    · rw [phase_of_write wrote, was]
      exact held
    · rw [phase_of_write wrote, was]
      exact unsent
  | failed publisher current error rest random written phase acts was nonneg wrote held unsent
      leaves =>
    obtain ⟨later, account, orphaned⟩ := invariant.fail valid was wrote
    have done : AccountInvariant config
        ((written.setPhase publisher (.publishing rest)).setPhase publisher phase) later := by
      refine account.setPhase ?_ ?_ leaves
      · rw [setPhase_phase, if_pos rfl]
        exact held
      · rw [setPhase_phase, if_pos rfl]
        exact unsent
    rw [setPhase_setPhase] at done
    refine ⟨later, done, fun tenure => orphaned (tenure publisher current ?_)⟩
    rw [was]
    exact List.mem_cons_self

end Step

/-! ### The bounds -/

theorem account_invariant {config : PublisherConfig}
    {labels : List (PublisherLabel Instance Payload)} {state : PublisherState Instance Payload}
    (reached : Transition.run (publisherStep config) .initial labels = some state) :
    ∃ ledger, AccountInvariant config state ledger := by
  have preserved : ∀ (earlier : List (PublisherLabel Instance Payload))
      (state : PublisherState Instance Payload) (label : PublisherLabel Instance Payload)
      (next : PublisherState Instance Payload),
      Transition.run (publisherStep config) .initial earlier = some state →
      (∃ ledger, AccountInvariant config state ledger) →
      publisherStep config state label = some next →
      ∃ ledger, AccountInvariant config next ledger := by
    intro earlier state label next before invariant moved
    obtain ⟨ledger, invariant⟩ := invariant
    obtain ⟨later, account, _⟩ :=
      (publisherStep_move moved).account (publisher_invariant before) invariant
    exact ⟨later, account⟩
  have holds := Transition.run_invariant_reachable preserved
    ⟨_, AccountInvariant.initial config⟩ reached
  exact holds

/-- With one clock the books have no orphans. -/
theorem account_invariant_clock {config : PublisherConfig}
    {labels : List (PublisherLabel Instance Payload)} {state : PublisherState Instance Payload}
    (ordered : labels.Pairwise fun first second => first.time ≤ second.time)
    (reached : Transition.run (publisherStep config) .initial labels = some state) :
    ∃ ledger, AccountInvariant config state ledger ∧ ∀ id, (ledger id).orphaned = [] := by
  have preserved : ∀ clock state (label : PublisherLabel Instance Payload) next,
      (LeaseInvariant clock state ∧ PublisherInvariant config state ∧
        (∃ earlier, Transition.run (publisherStep config) .initial earlier = some state) ∧
        ∃ ledger, AccountInvariant config state ledger ∧ ∀ id, (ledger id).orphaned = []) →
      clock ≤ label.time → publisherStep config state label = some next →
      (LeaseInvariant label.time next ∧ PublisherInvariant config next ∧
        (∃ earlier, Transition.run (publisherStep config) .initial earlier = some next) ∧
        ∃ ledger, AccountInvariant config next ledger ∧ ∀ id, (ledger id).orphaned = []) := by
    intro clock state label next holds passed moved
    obtain ⟨lease, valid, ⟨earlier, before⟩, ledger, account, orphaned⟩ := holds
    have move := publisherStep_move moved
    have after : Transition.run (publisherStep config) .initial (earlier ++ [label]) = some next :=
      Transition.run_concat_eq_some.mpr ⟨state, before, moved⟩
    obtain ⟨later, accountAfter, same⟩ := move.account valid account
    refine ⟨move.lease lease passed, publisher_invariant after, ⟨_, after⟩, later, accountAfter,
      fun id => ?_⟩
    rw [same lease.tenure id, orphaned id]
  have start : Transition.run (publisherStep config) .initial [] =
      some (.initial : PublisherState Instance Payload) := rfl
  obtain ⟨_, _, _, _, _, holds⟩ := Transition.run_invariant_clock preserved
    (fun clock => ⟨LeaseInvariant.initial clock, publisher_invariant start, ⟨[], start⟩, _,
      AccountInvariant.initial config, fun _ => rfl⟩) ordered reached
  exact holds

/-- The sends of a row since its creation or its last redrive: at most `maxAttempts` for every
time nobody took it over, and with one clock at most one more for every time somebody did. -/
theorem sends_bounded (config : PublisherConfig)
    (labels : List (PublisherLabel Instance Payload)) (state : PublisherState Instance Payload)
    (reached : Transition.run (publisherStep config) .initial labels = some state)
    (id : ObjectId) :
    ((state.history id).sends : Int) ≤
        config.maxAttempts * ((state.history id).reclaims + 1) ∧
      (labels.Pairwise (fun first second => first.time ≤ second.time) →
        ((state.history id).sends : Int) ≤
          config.maxAttempts + (state.history id).reclaims) := by
  refine ⟨?_, fun ordered => ?_⟩
  · obtain ⟨ledger, invariant⟩ := account_invariant reached
    have account := invariant.rows id
    have within := account.sends_le
    have orphans : ((ledger id).orphaned.length : Int) ≤ (state.history id).reclaims := by
      have reclaims := account.reclaims
      omega
    have once := config.maxAttempts_pos
    have growth := mul_le_mul_of_nonneg_right orphans
      (show (0 : Int) ≤ config.maxAttempts - 1 by omega)
    calc ((state.history id).sends : Int)
        ≤ config.maxAttempts + (ledger id).orphaned.length * (config.maxAttempts - 1) +
            (state.history id).reclaims := within
      _ ≤ config.maxAttempts + (state.history id).reclaims * (config.maxAttempts - 1) +
            (state.history id).reclaims := by omega
      _ = config.maxAttempts * ((state.history id).reclaims + 1) := by ring
  · obtain ⟨ledger, invariant, orphaned⟩ := account_invariant_clock ordered reached
    have within := (invariant.rows id).sends_le
    rw [orphaned id, List.length_nil, Nat.cast_zero, zero_mul, add_zero] at within
    exact within

/-- An instance crashes after its send, and another one takes the row over. -/
def crashedRun : List (PublisherLabel Bool Unit) :=
  let input : CreateOutboxEventInput Unit :=
    { eventId := [], eventType := [], eventVersion := 1, topic := [], key := [], payload := (),
      nextAttemptAt := 5, createdAt := 5 }
  [⟨5, .create 7 input⟩, ⟨6, .startRun true⟩, ⟨6, .claim true⟩, ⟨7, .claim true⟩,
    ⟨8, .send true .acknowledged⟩, ⟨9, .crash true⟩, ⟨40000, .startRun false⟩,
    ⟨40000, .claim false⟩, ⟨40001, .claim false⟩, ⟨40002, .send false .acknowledged⟩]

/-- One attempt, two sends. -/
theorem sends_exceed_maxAttempts :
    ∃ state, Transition.run (publisherStep .singleAttempt) .initial crashedRun = some state ∧
      PublisherConfig.singleAttempt.maxAttempts < (state.history 7).sends := by
  have runs : (Transition.run (publisherStep .singleAttempt) .initial crashedRun).any (fun state =>
      decide (PublisherConfig.singleAttempt.maxAttempts < (state.history 7).sends)) = true := by
    decide +kernel
  obtain ⟨state, reached, exceeds⟩ := (Option.any_eq_true _ _).mp runs
  exact ⟨state, reached, of_decide_eq_true exceeds⟩

theorem sends_bounded_crashed :
    ∃ state, Transition.run (publisherStep .singleAttempt) .initial crashedRun = some state ∧
      ((state.history 7).sends : Int) ≤
        PublisherConfig.singleAttempt.maxAttempts + (state.history 7).reclaims := by
  have runs :
      (Transition.run (publisherStep .singleAttempt) .initial crashedRun).isSome = true := by
    decide +kernel
  obtain ⟨state, reached⟩ := Option.isSome_iff_exists.mp runs
  exact ⟨state, reached,
    (sends_bounded .singleAttempt crashedRun state reached 7).2 (by decide)⟩

end MessageManagement
