/-
This file is about the timers of an event loop: `setTimeout` arms a callback under
a fresh handle, `clearTimeout` disarms one, and an armed timer fires once.

A program that keeps the handle of the timer it armed last in one variable, and
clears that timer before it arms the next one, has at most one timer armed for a
callback. That is said by `HeldBy`, and what the three operations do to it is all
such a program has to know of its timers.
-/

import Mathlib

/-- The callback of each armed timer. Handles are handed out in order. -/
structure Timers (Callback : Type) where
  next : Nat
  armed : Nat → Option Callback
  fresh : ∀ timer, next ≤ timer → armed timer = none

namespace Timers

variable {Callback : Type}

def empty : Timers Callback where
  next := 0
  armed _ := none
  fresh _ _ := rfl

/-! ### Operations -/

/-- `setTimeout`. The handle is `timers.next`. -/
def setTimeout (callback : Callback) (timers : Timers Callback) : Timers Callback where
  next := timers.next + 1
  armed := Function.update timers.armed timers.next (some callback)
  fresh timer later := by
    rw [Function.update_of_ne (Nat.ne_of_gt later)]
    exact timers.fresh timer (Nat.le_of_succ_le later)

/-- `clearTimeout`, and what firing does to the timer that fires. -/
def clearTimeout (timer : Nat) (timers : Timers Callback) : Timers Callback where
  next := timers.next
  armed := Function.update timers.armed timer none
  fresh other later := by
    by_cases same : other = timer
    · rw [same, Function.update_self]
    · rw [Function.update_of_ne same]
      exact timers.fresh other later

/-- `clearTimeout` of the handle in a variable, if there is one. -/
def clearHeld (holder : Option Nat) (timers : Timers Callback) : Timers Callback :=
  match holder with
  | none => timers
  | some timer => timers.clearTimeout timer

theorem armed_setTimeout (callback : Callback) (timers : Timers Callback) :
    (timers.setTimeout callback).armed =
      Function.update timers.armed timers.next (some callback) := rfl

theorem armed_setTimeout_next (callback : Callback) (timers : Timers Callback) :
    (timers.setTimeout callback).armed timers.next = some callback := by
  rw [armed_setTimeout, Function.update_self]

theorem armed_setTimeout_ne {callback other : Callback} (differ : other ≠ callback)
    (timers : Timers Callback) (timer : Nat) :
    (timers.setTimeout callback).armed timer = some other ↔ timers.armed timer = some other := by
  rw [armed_setTimeout]
  by_cases same : timer = timers.next
  · rw [same, Function.update_self, timers.fresh _ (le_refl _), Option.some_inj]
    exact ⟨fun isOther => absurd isOther.symm differ, fun nothing => nomatch nothing⟩
  · rw [Function.update_of_ne same]

theorem armed_clearTimeout (timers : Timers Callback) (timer : Nat) :
    (timers.clearTimeout timer).armed = Function.update timers.armed timer none := rfl

/-- Nothing but the cleared timer is disarmed. -/
theorem armed_of_clearTimeout {timers : Timers Callback} {timer other : Nat} {callback : Callback}
    (armed : (timers.clearTimeout timer).armed other = some callback) :
    other ≠ timer ∧ timers.armed other = some callback := by
  rw [armed_clearTimeout] at armed
  by_cases same : other = timer
  · rw [same, Function.update_self] at armed
    exact nomatch armed
  · rw [Function.update_of_ne same] at armed
    exact ⟨same, armed⟩

/-! ### One timer for a callback -/

/-- No timer with the callback is armed. -/
def Quiet (callback : Callback) (timers : Timers Callback) : Prop :=
  ∀ timer, timers.armed timer ≠ some callback

/-- The variable has the handle of every timer that is armed with the callback. -/
def HeldBy (callback : Callback) (holder : Option Nat) (timers : Timers Callback) : Prop :=
  ∀ timer, timers.armed timer = some callback → holder = some timer

variable {callback other : Callback} {holder : Option Nat} {timers : Timers Callback}

theorem quiet_empty : (empty : Timers Callback).Quiet callback := fun _ armed => nomatch armed

theorem Quiet.heldBy (quiet : timers.Quiet callback) (holder : Option Nat) :
    timers.HeldBy callback holder :=
  fun timer armed => absurd armed (quiet timer)

/-- Two armed timers with the callback are one. -/
theorem HeldBy.unique (held : timers.HeldBy callback holder) {first second : Nat}
    (firstArmed : timers.armed first = some callback)
    (secondArmed : timers.armed second = some callback) : first = second :=
  Option.some.inj ((held first firstArmed).symm.trans (held second secondArmed))

/-- Arming the callback where it is armed nowhere, with the handle kept. -/
theorem Quiet.setTimeout (quiet : timers.Quiet callback) :
    (timers.setTimeout callback).HeldBy callback (some timers.next) := by
  intro timer armed
  rw [armed_setTimeout] at armed
  by_cases same : timer = timers.next
  · rw [same]
  · rw [Function.update_of_ne same] at armed
    exact absurd armed (quiet timer)

/-- The timer that fires was the only one. -/
theorem HeldBy.fired (held : timers.HeldBy callback holder) {timer : Nat}
    (armed : timers.armed timer = some callback) : (timers.clearTimeout timer).Quiet callback := by
  intro later stillArmed
  obtain ⟨different, armedBefore⟩ := armed_of_clearTimeout stillArmed
  exact different (held.unique armedBefore armed)

theorem HeldBy.clearHeld (held : timers.HeldBy callback holder) :
    (timers.clearHeld holder).Quiet callback := by
  intro timer armed
  cases holder with
  | none => exact absurd (held timer armed) (Option.some_ne_none timer).symm
  | some last =>
    obtain ⟨different, armedBefore⟩ := armed_of_clearTimeout armed
    exact different (Option.some.inj (held timer armedBefore)).symm

/-! ### What other timers do to it -/

theorem HeldBy.clearTimeout (held : timers.HeldBy callback holder) (timer : Nat) :
    (timers.clearTimeout timer).HeldBy callback holder :=
  fun later armed => held later (armed_of_clearTimeout armed).2

theorem Quiet.clearTimeout (quiet : timers.Quiet callback) (timer : Nat) :
    (timers.clearTimeout timer).Quiet callback :=
  fun later armed => quiet later (armed_of_clearTimeout armed).2

theorem HeldBy.setTimeout_ne (held : timers.HeldBy callback holder) (differ : callback ≠ other) :
    (timers.setTimeout other).HeldBy callback holder :=
  fun timer armed => held timer ((armed_setTimeout_ne differ timers timer).mp armed)

theorem Quiet.setTimeout_ne (quiet : timers.Quiet callback) (differ : callback ≠ other) :
    (timers.setTimeout other).Quiet callback :=
  fun timer armed => quiet timer ((armed_setTimeout_ne differ timers timer).mp armed)

end Timers
