/-
This file builds the runs of an executable labelled transition system.

A system is a partial step function: every choice its environment makes (who
moves, what a call returns, what a clock shows) is part of the label, so one
label at one state has at most one successor and a run is a list of labels.
What one step preserves is lifted here, once, to what a whole run preserves;
runs whose steps all meet a condition on the state before the step are covered
by the same rule.
-/

import Mathlib

namespace Transition

variable {State Label : Type}

/-! ### Runs -/

/-- Perform the labels in order; the run is `none` as soon as one of them is not enabled. -/
def run (step : State → Label → Option State) : State → List Label → Option State
  | state, [] => some state
  | state, label :: rest => (step state label).bind fun next => run step next rest

variable {step : State → Label → Option State}

@[simp]
theorem run_nil (state : State) : run step state [] = some state := rfl

theorem run_append (state : State) (first second : List Label) :
    run step state (first ++ second) =
      (run step state first).bind fun middle => run step middle second := by
  induction first generalizing state with
  | nil => rfl
  | cons label rest inductionHypothesis =>
    simp only [List.cons_append, run, Option.bind_assoc, inductionHypothesis]

/-- The last step of a run, peeled off. -/
theorem run_concat_eq_some {start finish : State} {labels : List Label} {label : Label} :
    run step start (labels ++ [label]) = some finish ↔
      ∃ state, run step start labels = some state ∧ step state label = some finish := by
  rw [run_append, Option.bind_eq_some_iff]
  simp only [run, Option.bind_fun_some]

/-! ### Conditions on every step of a run -/

/-- Every step the run takes meets the condition, read in the state before the step. -/
def Along (step : State → Label → Option State) (condition : State → Label → Prop) :
    State → List Label → Prop
  | _, [] => True
  | state, label :: rest =>
    condition state label ∧ ∀ next, step state label = some next → Along step condition next rest

theorem along_of_forall {condition : State → Label → Prop} {labels : List Label}
    (meets : ∀ label ∈ labels, ∀ state, condition state label) (start : State) :
    Along step condition start labels := by
  induction labels generalizing start with
  | nil => exact trivial
  | cons label rest inductionHypothesis =>
    refine ⟨meets label List.mem_cons_self start, fun next _ => ?_⟩
    exact inductionHypothesis (fun other member => meets other (List.mem_cons_of_mem _ member)) next

theorem Along.and {first second : State → Label → Prop} {start : State} {labels : List Label}
    (meetsFirst : Along step first start labels) (meetsSecond : Along step second start labels) :
    Along step (fun state label => first state label ∧ second state label) start labels := by
  induction labels generalizing start with
  | nil => exact trivial
  | cons label rest inductionHypothesis =>
    exact ⟨⟨meetsFirst.1, meetsSecond.1⟩, fun next moved =>
      inductionHypothesis (meetsFirst.2 next moved) (meetsSecond.2 next moved)⟩

/-- A condition that holds wherever a beginning of the run ends holds along the run. -/
theorem along_of_reached {condition : State → Label → Prop} {labels : List Label} {start : State}
    (meets : ∀ earlier label later state, labels = earlier ++ label :: later →
      run step start earlier = some state → condition state label) :
    Along step condition start labels := by
  induction labels generalizing start with
  | nil => exact trivial
  | cons label rest inductionHypothesis =>
    refine ⟨meets [] label rest start rfl rfl, fun next moved => inductionHypothesis ?_⟩
    intro earlier other later state same reached
    refine meets (label :: earlier) other later state ?_ ?_
    · rw [same, List.cons_append]
    · rw [run, moved, Option.bind_some, reached]

/-- Where a property is lost exactly in the steps that do not meet a condition, a run keeps it
exactly if all its steps meet the condition. -/
theorem run_iff_along {condition : State → Label → Prop} {Holds : State → Prop}
    (lost : ∀ state label next, step state label = some next →
      (Holds next ↔ Holds state ∧ condition state label))
    {start finish : State} {labels : List Label} (reached : run step start labels = some finish) :
    Holds finish ↔ Holds start ∧ Along step condition start labels := by
  induction labels generalizing start with
  | nil =>
    rw [run_nil, Option.some_inj] at reached
    rw [← reached]
    exact ⟨fun holds => ⟨holds, trivial⟩, And.left⟩
  | cons label rest inductionHypothesis =>
    obtain ⟨next, moved, reached⟩ := Option.bind_eq_some_iff.mp reached
    rw [inductionHypothesis reached, lost start label next moved, and_assoc]
    refine and_congr_right fun _ => and_congr_right fun _ => ⟨fun along other movedOther => ?_,
      fun along => along next moved⟩
    rw [moved, Option.some_inj] at movedOther
    exact movedOther ▸ along

/-- A run meets a condition when both its parts do. -/
theorem along_append {condition : State → Label → Prop} {start middle : State}
    {first second : List Label} (reached : run step start first = some middle) :
    Along step condition start (first ++ second) ↔
      Along step condition start first ∧ Along step condition middle second := by
  induction first generalizing start with
  | nil =>
    rw [run_nil, Option.some_inj] at reached
    subst reached
    exact ⟨fun meets => ⟨trivial, meets⟩, And.right⟩
  | cons label rest inductionHypothesis =>
    obtain ⟨next, moved, reached⟩ := Option.bind_eq_some_iff.mp reached
    have tail := inductionHypothesis reached
    constructor
    · intro meets
      obtain ⟨initial, final⟩ := tail.mp (meets.2 next moved)
      refine ⟨⟨meets.1, fun other movedOther => ?_⟩, final⟩
      rw [moved, Option.some_inj] at movedOther
      exact movedOther ▸ initial
    · intro meets
      refine ⟨meets.1.1, fun other movedOther => ?_⟩
      rw [moved, Option.some_inj] at movedOther
      subst movedOther
      exact tail.mpr ⟨meets.1.2 next moved, meets.2⟩

/-! ### Invariants -/

/-- An invariant that every step meeting the condition preserves holds at the end of every
run whose steps all meet it. -/
theorem run_invariant_along {condition : State → Label → Prop} {Invariant : State → Prop}
    (preserved : ∀ state label next, Invariant state → condition state label →
      step state label = some next → Invariant next)
    {start finish : State} {labels : List Label} (initially : Invariant start)
    (meets : Along step condition start labels) (reached : run step start labels = some finish) :
    Invariant finish := by
  induction labels generalizing start with
  | nil =>
    rw [run_nil, Option.some_inj] at reached
    exact reached ▸ initially
  | cons label rest inductionHypothesis =>
    obtain ⟨next, moved, reached⟩ := Option.bind_eq_some_iff.mp reached
    exact inductionHypothesis (preserved start label next initially meets.1 moved)
      (meets.2 next moved) reached

/-- What such an invariant implies of the next step holds along the whole run. -/
theorem along_of_invariant {condition property : State → Label → Prop} {Invariant : State → Prop}
    (preserved : ∀ state label next, Invariant state → condition state label →
      step state label = some next → Invariant next)
    (implies : ∀ state label, Invariant state → condition state label → property state label)
    {start : State} {labels : List Label} (initially : Invariant start)
    (meets : Along step condition start labels) : Along step property start labels := by
  induction labels generalizing start with
  | nil => exact trivial
  | cons label rest inductionHypothesis =>
    refine ⟨implies start label initially meets.1, fun next moved => ?_⟩
    exact inductionHypothesis (preserved start label next initially meets.1 moved)
      (meets.2 next moved)

/-- An invariant that every step preserves holds at the end of every run. -/
theorem run_invariant {Invariant : State → Prop}
    (preserved : ∀ state label next, Invariant state → step state label = some next →
      Invariant next)
    {start finish : State} {labels : List Label} (initially : Invariant start)
    (reached : run step start labels = some finish) : Invariant finish := by
  induction labels generalizing start with
  | nil =>
    rw [run_nil, Option.some_inj] at reached
    exact reached ▸ initially
  | cons label rest inductionHypothesis =>
    obtain ⟨next, moved, reached⟩ := Option.bind_eq_some_iff.mp reached
    exact inductionHypothesis (preserved start label next initially moved) reached

/-- An invariant whose preservation may use that the state was reached. -/
theorem run_invariant_reachable {Invariant : State → Prop} {start finish : State}
    {labels : List Label}
    (preserved : ∀ earlier state label next, run step start earlier = some state →
      Invariant state → step state label = some next → Invariant next)
    (initially : Invariant start) (reached : run step start labels = some finish) :
    Invariant finish := by
  induction labels using List.reverseRecOn generalizing finish with
  | nil =>
    rw [run_nil, Option.some_inj] at reached
    exact reached ▸ initially
  | append_singleton earlier label inductionHypothesis =>
    obtain ⟨state, before, moved⟩ := run_concat_eq_some.mp reached
    exact preserved earlier state label finish before (inductionHypothesis before) moved

/-! ### Clocks -/

/-- A run read by one clock from some instant on: no step happens before that instant or before
an earlier step. The invariant may speak about the time of the last step. -/
theorem run_invariant_clock_from {time : Label → Int} {Invariant : Int → State → Prop}
    (preserved : ∀ clock state label next, Invariant clock state → clock ≤ time label →
      step state label = some next → Invariant (time label) next)
    {clock : Int} {start finish : State} {labels : List Label}
    (initially : Invariant clock start) (after : ∀ label ∈ labels, clock ≤ time label)
    (ordered : labels.Pairwise fun first second => time first ≤ time second)
    (reached : run step start labels = some finish) :
    ∃ last, (∀ label ∈ labels, time label ≤ last) ∧ clock ≤ last ∧ Invariant last finish := by
  induction labels generalizing clock start with
  | nil =>
    rw [run_nil, Option.some_inj] at reached
    exact ⟨clock, fun _ member => absurd member List.not_mem_nil, le_refl clock,
      reached ▸ initially⟩
  | cons label rest inductionHypothesis =>
    obtain ⟨next, moved, reached⟩ := Option.bind_eq_some_iff.mp reached
    obtain ⟨first, ordered⟩ := List.pairwise_cons.mp ordered
    have start := after label List.mem_cons_self
    obtain ⟨last, bounded, later, holds⟩ := inductionHypothesis
      (preserved clock _ label next initially start moved) first ordered reached
    refine ⟨last, fun other member => ?_, le_trans start later, holds⟩
    rcases List.mem_cons.mp member with rfl | member
    · exact later
    · exact bounded other member

/-- An invariant that holds initially whatever the clock shows, and that every step preserves
while the clock does not go back, holds at the end of every run read by one clock. -/
theorem run_invariant_clock {time : Label → Int} {Invariant : Int → State → Prop}
    (preserved : ∀ clock state label next, Invariant clock state → clock ≤ time label →
      step state label = some next → Invariant (time label) next)
    {start finish : State} {labels : List Label} (initially : ∀ clock, Invariant clock start)
    (ordered : labels.Pairwise fun first second => time first ≤ time second)
    (reached : run step start labels = some finish) :
    ∃ clock, (∀ label ∈ labels, time label ≤ clock) ∧ Invariant clock finish := by
  cases labels with
  | nil =>
    rw [run_nil, Option.some_inj] at reached
    exact ⟨0, fun _ member => absurd member List.not_mem_nil, reached ▸ initially 0⟩
  | cons label rest =>
    have after : ∀ other ∈ label :: rest, time label ≤ time other := by
      intro other member
      rcases List.mem_cons.mp member with rfl | member
      · exact le_refl _
      · exact (List.pairwise_cons.mp ordered).1 other member
    obtain ⟨last, bounded, _, holds⟩ :=
      run_invariant_clock_from preserved (initially (time label)) after ordered reached
    exact ⟨last, bounded, holds⟩

/-! ### Simulation -/

/-- A system that only adds to the states of another one runs as that one does. -/
theorem run_projected {Projected : Type} {project : State → Projected}
    {projectedStep : Projected → Label → Option Projected}
    (projects : ∀ state label next, step state label = some next →
      projectedStep (project state) label = some (project next))
    {start finish : State} {labels : List Label} (reached : run step start labels = some finish) :
    run projectedStep (project start) labels = some (project finish) := by
  induction labels generalizing start with
  | nil =>
    rw [run_nil, Option.some_inj] at reached
    rw [run_nil, reached]
  | cons label rest inductionHypothesis =>
    obtain ⟨next, moved, reached⟩ := Option.bind_eq_some_iff.mp reached
    rw [run, projects start label next moved, Option.bind_some, inductionHypothesis reached]

/-- A forward simulation: whatever the concrete system does in one step, the abstract one does
in some number of steps. It then does so for whole runs. -/
theorem run_simulated {Abstract AbstractLabel : Type}
    {abstractStep : Abstract → AbstractLabel → Option Abstract} {Related : State → Abstract → Prop}
    (matched : ∀ state label next abstract, Related state abstract →
      step state label = some next → ∃ labels next', run abstractStep abstract labels = some next' ∧
        Related next next')
    {start finish : State} {labels : List Label} {abstract : Abstract}
    (initially : Related start abstract) (reached : run step start labels = some finish) :
    ∃ abstractLabels finish', run abstractStep abstract abstractLabels = some finish' ∧
      Related finish finish' := by
  induction labels generalizing start abstract with
  | nil =>
    rw [run_nil, Option.some_inj] at reached
    exact ⟨[], abstract, rfl, reached ▸ initially⟩
  | cons label rest inductionHypothesis =>
    obtain ⟨next, moved, reached⟩ := Option.bind_eq_some_iff.mp reached
    obtain ⟨first, middle, firstReached, related⟩ := matched start label next abstract initially
      moved
    obtain ⟨second, finish', secondReached, related⟩ := inductionHypothesis related reached
    refine ⟨first ++ second, finish', ?_, related⟩
    rw [run_append, firstReached, Option.bind_some, secondReached]

/-! ### What can be reached -/

/-- Some run whose steps all meet a condition leads from one state to the other. -/
def ReachesAlong (step : State → Label → Option State) (condition : State → Label → Prop)
    (start finish : State) : Prop :=
  ∃ labels, run step start labels = some finish ∧ Along step condition start labels

section Reached

variable {condition : State → Label → Prop} {start middle finish : State}

theorem ReachesAlong.refl (start : State) : ReachesAlong step condition start start :=
  ⟨[], rfl, trivial⟩

theorem ReachesAlong.trans (first : ReachesAlong step condition start middle)
    (second : ReachesAlong step condition middle finish) :
    ReachesAlong step condition start finish := by
  obtain ⟨labels, reached, meets⟩ := first
  obtain ⟨later, finished, laterMeets⟩ := second
  refine ⟨labels ++ later, ?_, (along_append reached).mpr ⟨meets, laterMeets⟩⟩
  rw [run_append, reached, Option.bind_some, finished]

theorem ReachesAlong.single {label : Label} (meets : condition start label)
    (moved : step start label = some finish) : ReachesAlong step condition start finish := by
  refine ⟨[label], ?_, meets, fun _ _ => trivial⟩
  rw [run, moved]
  rfl

/-- What every step preserves is preserved by the run. -/
theorem ReachesAlong.invariant {Invariant : State → Prop}
    (reaches : ReachesAlong step condition start finish)
    (preserved : ∀ state label next, Invariant state → step state label = some next →
      Invariant next) (initially : Invariant start) : Invariant finish := by
  obtain ⟨labels, reached, _⟩ := reaches
  exact run_invariant preserved initially reached

/-- If every member of a list can be dealt with from every state of an invariant, and what is dealt
with stays so, all members can be dealt with in one run. -/
theorem ReachesAlong.all {Invariant : State → Prop} {Item : Type} {Done : Item → State → Prop}
    (preserved : ∀ state label next, Invariant state → step state label = some next →
      Invariant next)
    (stays : ∀ item state label next, Invariant state → Done item state →
      step state label = some next → Done item next)
    {items : List Item}
    (dealt : ∀ item ∈ items, ∀ state, Invariant state → ReachesAlong step condition start state →
      ∃ next, ReachesAlong step condition state next ∧ Done item next)
    (initially : Invariant start) :
    ∃ finish, ReachesAlong step condition start finish ∧ ∀ item ∈ items, Done item finish := by
  induction items with
  | nil => exact ⟨start, .refl start, fun _ member => absurd member List.not_mem_nil⟩
  | cons first rest inductionHypothesis =>
    obtain ⟨middle, reaches, done⟩ := inductionHypothesis fun item member =>
      dealt item (List.mem_cons_of_mem _ member)
    have holds := reaches.invariant preserved initially
    obtain ⟨finish, further, firstDone⟩ := dealt first List.mem_cons_self middle holds reaches
    refine ⟨finish, reaches.trans further, fun item member => ?_⟩
    rcases List.mem_cons.mp member with rfl | member
    · exact firstDone
    · have kept : ∀ state label next, Invariant state ∧ Done item state →
          step state label = some next → Invariant next ∧ Done item next :=
        fun state label next both moved => ⟨preserved state label next both.1 moved,
          stays item state label next both.1 both.2 moved⟩
      exact (further.invariant kept ⟨holds, done item member⟩).2

end Reached

/-! ### What a run shows -/

section Observed

variable {Observation : Type} {shows : State → Label → List Observation}

/-- What the steps of a run show, in order. -/
def observed (step : State → Label → Option State) (shows : State → Label → List Observation) :
    State → List Label → List Observation
  | _, [] => []
  | state, label :: rest =>
    shows state label ++ (step state label).elim [] fun next => observed step shows next rest

theorem observed_cons {state next : State} {label : Label} {rest : List Label}
    (moved : step state label = some next) :
    observed step shows state (label :: rest) =
      shows state label ++ observed step shows next rest := by
  rw [observed, moved, Option.elim_some]

theorem observed_append {start middle : State} {first second : List Label}
    (reached : run step start first = some middle) :
    observed step shows start (first ++ second) =
      observed step shows start first ++ observed step shows middle second := by
  induction first generalizing start with
  | nil =>
    rw [run_nil, Option.some_inj] at reached
    rw [reached]
    rfl
  | cons label rest inductionHypothesis =>
    obtain ⟨next, moved, reached⟩ := Option.bind_eq_some_iff.mp reached
    rw [List.cons_append, observed_cons moved, observed_cons moved, inductionHypothesis reached,
      List.append_assoc]

theorem observed_eq_nil {labels : List Label} (start : State)
    (nothing : ∀ label ∈ labels, ∀ state, shows state label = []) :
    observed step shows start labels = [] := by
  induction labels generalizing start with
  | nil => rfl
  | cons label rest inductionHypothesis =>
    have later : ∀ state, observed step shows state rest = [] := fun state =>
      inductionHypothesis state fun other member => nothing other (List.mem_cons_of_mem _ member)
    rw [observed, nothing label List.mem_cons_self, List.nil_append]
    cases step start label with
    | none => rfl
    | some next => exact later next

end Observed

end Transition
