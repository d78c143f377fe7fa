/-
This file is about the values that a program reads from text as numbers and then
accepts only as integers within bounds: a value may be no number at all, infinite,
or a fraction.

It also has the natural numbers that fit in 53 bits and a power of two, which is
what a program that counts in JavaScript's `number` type counts with, and how they
are printed.
-/

import Mathlib

/-- A value of JavaScript's `number` type. -/
inductive NumberValue
  | nan
  | infinite (negative : Bool)
  | finite (value : ℚ)

namespace NumberValue

/-- The integer that a value is, if `Number.isInteger` accepts it. -/
def integer? : NumberValue → Option ℤ
  | finite value => if value.isInt then some value.num else none
  | _ => none

theorem eq_finite_of_integer? {value : NumberValue} {integer : ℤ}
    (isInteger : value.integer? = some integer) : value = finite integer := by
  cases value with
  | finite rational =>
    obtain ⟨whole, same⟩ := Option.ite_none_right_eq_some.mp isInteger
    rw [← Option.some.inj same]
    exact congrArg finite (Rat.eq_num_of_isInt whole)
  | nan => cases isInteger
  | infinite negative => cases isInteger

/-- The value, if it is an integer that is no less than one bound and no more than the other. -/
def naturalWithin (least : Nat) (most : Option Nat) (value : NumberValue) : Option Nat :=
  value.integer?.bind fun integer =>
    if (least : ℤ) ≤ integer && most.all fun bound => decide (integer ≤ bound) then
      some integer.toNat
    else none

theorem naturalWithin_eq_some {least natural : Nat} {most : Option Nat} {value : NumberValue} :
    value.naturalWithin least most = some natural ↔
      value.integer? = some (natural : ℤ) ∧ least ≤ natural ∧
        ∀ bound, most = some bound → natural ≤ bound := by
  rw [naturalWithin, Option.bind_eq_some_iff]
  constructor
  · rintro ⟨integer, isInteger, kept⟩
    rw [Option.ite_none_right_eq_some, Bool.and_eq_true, decide_eq_true_eq,
      Option.some_inj] at kept
    obtain ⟨⟨above, below⟩, rfl⟩ := kept
    have same : (integer.toNat : ℤ) = integer :=
      Int.toNat_of_nonneg (le_trans (Int.natCast_nonneg least) above)
    refine ⟨same.symm ▸ isInteger, by omega, ?_⟩
    rintro bound rfl
    have below : integer ≤ bound := of_decide_eq_true below
    omega
  · rintro ⟨isInteger, above, below⟩
    refine ⟨natural, isInteger, if_pos ?_⟩
    rw [Bool.and_eq_true, decide_eq_true_eq]
    refine ⟨Int.ofNat_le.mpr above, ?_⟩
    cases most with
    | none => rfl
    | some bound => exact decide_eq_true (Int.ofNat_le.mpr (below bound rfl))

end NumberValue

/-! ### Natural numbers in 53 bits -/

namespace Binary64

/-- The nearest natural number with at most 53 significant bits, the even one of two. -/
def rounded (number : Nat) : Nat :=
  let unit := 2 ^ (number.log2 + 1 - 53)
  let significand := number / unit
  let rest := number % unit
  if unit < 2 * rest ∨ 2 * rest = unit ∧ significand % 2 = 1 then (significand + 1) * unit
  else significand * unit

/-- The nearest number with this many final zeros that is rounded to the value, if there is one,
else one with fewer zeros. -/
def shortestFrom (value : Nat) : Nat → Nat
  | 0 => value
  | zeros + 1 =>
    let unit := 10 ^ (zeros + 1)
    let below := value / unit * unit
    let above := below + unit
    if rounded below = value ∧ (value - below ≤ above - value ∨ rounded above ≠ value) then below
    else if rounded above = value then above
    else shortestFrom value zeros

/-- The number with the fewest significant digits that is rounded to the value. -/
def shortest (value : Nat) : Nat := shortestFrom value (Nat.toDigits 10 value).length

/-- `Number::toString`, of a natural number in 53 bits. -/
def toText (value : Nat) : String :=
  let digits := Nat.toDigits 10 (shortest value)
  if 2 ^ 1024 ≤ value then "Infinity"
  else if digits.length ≤ 21 then String.ofList digits
  else
    match digits.rdropWhile (· = '0') with
    | [] => ""
    | [first] => s!"{first}e+{digits.length - 1}"
    | first :: rest => s!"{first}.{String.ofList rest}e+{digits.length - 1}"

end Binary64
