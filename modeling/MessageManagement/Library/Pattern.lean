/-
This file writes the patterns that validation uses (classes of symbols, their
repetitions, lists with a separator) as regular expressions, and says which
texts match them.

A text matches a separated list exactly when it is what joining some matching
parts with the separator gives. Where no part holds the separator, splitting the
text there gives these parts back, so a list that was matched is read in one way
only.
-/

import Mathlib

namespace Pattern

variable {Symbol : Type}

/-- `[…]`: one of these symbols. -/
def oneOf : List Symbol → RegularExpression Symbol
  | [] => 0
  | symbol :: rest => .char symbol + oneOf rest

/-- `P+`. -/
def oneOrMore (pattern : RegularExpression Symbol) : RegularExpression Symbol :=
  pattern * pattern.star

/-- `P(,P)*`, with this separator. -/
def separated (separator : Symbol) (pattern : RegularExpression Symbol) :
    RegularExpression Symbol :=
  pattern * (.char separator * pattern).star

/-! ### Classes of symbols -/

theorem mem_oneOf {symbols text : List Symbol} :
    text ∈ (oneOf symbols).matches' ↔ ∃ symbol ∈ symbols, text = [symbol] := by
  induction symbols with
  | nil =>
    constructor
    · intro matched
      exact absurd matched (Language.notMem_zero text)
    · rintro ⟨symbol, member, _⟩
      exact absurd member List.not_mem_nil
  | cons symbol rest inductionHypothesis =>
    have single : text ∈ (RegularExpression.char symbol).matches' ↔ text = [symbol] := Iff.rfl
    rw [oneOf, RegularExpression.matches'_add, Language.mem_add, inductionHypothesis, single,
      List.exists_mem_cons_iff]

theorem mem_star_oneOf {symbols text : List Symbol} :
    text ∈ (oneOf symbols).star.matches' ↔ ∀ symbol ∈ text, symbol ∈ symbols := by
  rw [RegularExpression.matches'_star, Language.mem_kstar]
  constructor
  · rintro ⟨parts, rfl, matched⟩ symbol member
    obtain ⟨part, isPart, member⟩ := List.mem_flatten.mp member
    obtain ⟨single, inClass, rfl⟩ := mem_oneOf.mp (matched part isPart)
    exact List.mem_singleton.mp member ▸ inClass
  · intro inClass
    refine ⟨text.map fun symbol => [symbol], ?_, ?_⟩
    · rw [← List.flatMap_def, List.flatMap_singleton']
    · intro part isPart
      obtain ⟨symbol, member, rfl⟩ := List.mem_map.mp isPart
      exact mem_oneOf.mpr ⟨symbol, inClass symbol member, rfl⟩

theorem mem_oneOrMore_oneOf {symbols text : List Symbol} :
    text ∈ (oneOrMore (oneOf symbols)).matches' ↔
      text ≠ [] ∧ ∀ symbol ∈ text, symbol ∈ symbols := by
  rw [oneOrMore, RegularExpression.matches'_mul, Language.mem_mul]
  constructor
  · rintro ⟨first, matched, rest, repeated, rfl⟩
    obtain ⟨symbol, inClass, rfl⟩ := mem_oneOf.mp matched
    refine ⟨List.cons_ne_nil symbol rest, List.forall_mem_cons.mpr ⟨inClass, ?_⟩⟩
    exact mem_star_oneOf.mp repeated
  · rintro ⟨nonempty, inClass⟩
    obtain ⟨symbol, rest, rfl⟩ := List.exists_cons_of_ne_nil nonempty
    obtain ⟨head, tail⟩ := List.forall_mem_cons.mp inClass
    exact ⟨[symbol], mem_oneOf.mpr ⟨symbol, head, rfl⟩, rest, mem_star_oneOf.mpr tail, rfl⟩

theorem mem_pow_oneOf {symbols text : List Symbol} {count : Nat} :
    text ∈ (oneOf symbols ^ count).matches' ↔
      text.length = count ∧ ∀ symbol ∈ text, symbol ∈ symbols := by
  rw [RegularExpression.matches'_pow]
  induction count generalizing text with
  | zero =>
    rw [pow_zero, Language.mem_one, List.length_eq_zero_iff]
    refine ⟨fun empty => ⟨empty, fun symbol member => ?_⟩, And.left⟩
    rw [empty] at member
    exact absurd member List.not_mem_nil
  | succ count inductionHypothesis =>
    rw [pow_succ', Language.mem_mul]
    constructor
    · rintro ⟨first, matched, rest, repeated, rfl⟩
      obtain ⟨symbol, inClass, rfl⟩ := mem_oneOf.mp matched
      obtain ⟨length, others⟩ := inductionHypothesis.mp repeated
      exact ⟨congrArg Nat.succ length, List.forall_mem_cons.mpr ⟨inClass, others⟩⟩
    · rintro ⟨length, inClass⟩
      obtain ⟨symbol, rest, rfl⟩ := List.exists_cons_of_length_eq_add_one length
      obtain ⟨head, tail⟩ := List.forall_mem_cons.mp inClass
      refine ⟨[symbol], mem_oneOf.mpr ⟨symbol, head, rfl⟩, rest, ?_, rfl⟩
      exact inductionHypothesis.mpr ⟨Nat.succ.inj length, tail⟩

/-! ### Separated lists -/

theorem intercalate_cons (separator : Symbol) (first : List Symbol) (rest : List (List Symbol)) :
    [separator].intercalate (first :: rest) =
      first ++ (rest.map fun part => separator :: part).flatten := by
  induction rest generalizing first with
  | nil => simp
  | cons second rest inductionHypothesis =>
    rw [List.intercalate_cons_cons, inductionHypothesis, List.map_cons, List.flatten_cons,
      List.append_assoc, List.singleton_append, List.cons_append]

theorem mem_separated {separator : Symbol} {pattern : RegularExpression Symbol}
    {text : List Symbol} :
    text ∈ (separated separator pattern).matches' ↔
      ∃ parts, parts ≠ [] ∧ (∀ part ∈ parts, part ∈ pattern.matches') ∧
        text = [separator].intercalate parts := by
  rw [separated, RegularExpression.matches'_mul, Language.mem_mul]
  constructor
  · rintro ⟨first, matched, tail, repeated, rfl⟩
    rw [RegularExpression.matches'_star, Language.mem_kstar] at repeated
    obtain ⟨pieces, rfl, eachMatched⟩ := repeated
    -- Each further piece is the separator with a part behind it.
    have split : ∃ rest : List (List Symbol), (∀ part ∈ rest, part ∈ pattern.matches') ∧
        pieces = rest.map fun part => separator :: part := by
      induction pieces with
      | nil => exact ⟨[], fun _ member => absurd member List.not_mem_nil, rfl⟩
      | cons piece pieces inductionHypothesis =>
        obtain ⟨head, others⟩ := List.forall_mem_cons.mp eachMatched
        obtain ⟨rest, parts, rfl⟩ := inductionHypothesis others
        obtain ⟨_, isSeparator, part, isPart, rfl⟩ := Language.mem_mul.mp head
        obtain rfl := Set.mem_singleton_iff.mp isSeparator
        exact ⟨part :: rest, List.forall_mem_cons.mpr ⟨isPart, parts⟩, rfl⟩
    obtain ⟨rest, parts, rfl⟩ := split
    refine ⟨first :: rest, List.cons_ne_nil first rest, ?_, ?_⟩
    · exact List.forall_mem_cons.mpr ⟨matched, parts⟩
    · exact (intercalate_cons separator first rest).symm
  · rintro ⟨parts, nonempty, matched, rfl⟩
    obtain ⟨first, rest, rfl⟩ := List.exists_cons_of_ne_nil nonempty
    obtain ⟨head, tail⟩ := List.forall_mem_cons.mp matched
    refine ⟨first, head, _, ?_, (intercalate_cons separator first rest).symm⟩
    rw [RegularExpression.matches'_star, Language.mem_kstar]
    refine ⟨_, rfl, fun piece isPiece => ?_⟩
    obtain ⟨part, isPart, rfl⟩ := List.mem_map.mp isPiece
    exact Language.mem_mul.mpr ⟨[separator], rfl, part, tail part isPart, rfl⟩

end Pattern
