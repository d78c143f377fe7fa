/-
This file defines JSON values, `JSON.stringify` and `JSON.parse` on the strings of
the JavaScript runtime, and proves that parsing undoes printing.

Numbers are a parameter: what a numeric literal denotes and how a number is
printed is the runtime's, and all the round trip needs of it is that a printed
number is a numeric literal that denotes the number. Objects are their own
properties in order. Parsing keeps the last of several values under one key, in
the place of the first, so a value is plain when no object has a key twice and
no number is infinite.
-/

import MessageManagement.Library.IsoDate

/-! ### Numbers -/

/-- The numbers of the runtime. `ofLiteral` is what a numeric literal of a JSON text denotes,
`toText` what a finite number is printed as. -/
class JsNumber (Number : Type) where
  ofLiteral : JsString → Number
  toText : Number → JsString
  isFinite : Number → Bool
  ofNat : Nat → Number

def isDigit (unit : UInt16) : Bool := 0x30 ≤ unit.toNat && unit.toNat ≤ 0x39

/-- The digits at the start of a text, and what follows them. -/
def scanDigits (text : JsString) : JsString × JsString :=
  (text.takeWhile isDigit, text.dropWhile isDigit)

/-- The integer part of a literal: a zero, or digits that do not start with one. -/
def scanInteger : JsString → Option (JsString × JsString)
  | [] => none
  | unit :: rest =>
    if unit = 0x30 then some ([unit], rest)
    else if isDigit unit then some (scanDigits (unit :: rest))
    else none

/-- A fraction, if there is one. -/
def scanFraction : JsString → Option (JsString × JsString)
  | [] => some ([], [])
  | unit :: rest =>
    if unit = 0x2E then
      if (scanDigits rest).1 = [] then none
      else some (unit :: (scanDigits rest).1, (scanDigits rest).2)
    else some ([], unit :: rest)

/-- The sign of an exponent, if there is one. -/
def scanSign : JsString → JsString × JsString
  | [] => ([], [])
  | unit :: rest => if unit = 0x2B ∨ unit = 0x2D then ([unit], rest) else ([], unit :: rest)

/-- An exponent, if there is one. -/
def scanExponent : JsString → Option (JsString × JsString)
  | [] => some ([], [])
  | unit :: rest =>
    if unit = 0x45 ∨ unit = 0x65 then
      let sign := scanSign rest
      if (scanDigits sign.2).1 = [] then none
      else some (unit :: sign.1 ++ (scanDigits sign.2).1, (scanDigits sign.2).2)
    else some ([], unit :: rest)

/-- A literal without its sign. -/
def scanUnsigned (text : JsString) : Option (JsString × JsString) :=
  (scanInteger text).bind fun integer =>
    (scanFraction integer.2).bind fun fraction =>
      (scanExponent fraction.2).map fun exponent =>
        (integer.1 ++ fraction.1 ++ exponent.1, exponent.2)

/-- The numeric literal a text starts with, and what follows it. -/
def scanNumber : JsString → Option (JsString × JsString)
  | [] => none
  | unit :: rest =>
    if unit = 0x2D then (scanUnsigned rest).map fun literal => (unit :: literal.1, literal.2)
    else scanUnsigned (unit :: rest)

/-- The text does not continue a numeric literal. -/
def endsNumber : JsString → Bool
  | [] => true
  | unit :: _ => !(isDigit unit || unit == 0x2E || unit == 0x45 || unit == 0x65)

/-- A numeric literal: a scan finds it wherever nothing continues it. -/
def IsNumberLiteral (literal : JsString) : Prop :=
  ∀ rest, endsNumber rest = true → scanNumber (literal ++ rest) = some (literal, rest)

/-- What the runtime documents of its numbers. -/
class LawfulJsNumber (Number : Type) [JsNumber Number] : Prop where
  isNumberLiteral_toText : ∀ number : Number, JsNumber.isFinite number = true →
    IsNumberLiteral (JsNumber.toText number)
  ofLiteral_toText : ∀ number : Number, JsNumber.isFinite number = true →
    JsNumber.ofLiteral (JsNumber.toText number) = number
  isFinite_ofNat : ∀ value, JsNumber.isFinite (JsNumber.ofNat value : Number) = true

/-! ### Values -/

inductive Json (Number : Type)
  | null
  | bool (value : Bool)
  | number (value : Number)
  | string (value : JsString)
  | array (elements : List (Json Number))
  | object (fields : List (JsString × Json Number))

namespace Json

variable {Number : Type}

/-- The value of an own property. -/
def lookup (key : JsString) : List (JsString × Json Number) → Option (Json Number)
  | [] => none
  | (other, value) :: rest => if other = key then some value else lookup key rest

/-- Define a property, in the place it has already or at the end. -/
def define (key : JsString) (value : Json Number) :
    List (JsString × Json Number) → List (JsString × Json Number)
  | [] => [(key, value)]
  | (other, old) :: rest =>
    if other = key then (key, value) :: rest else (other, old) :: define key value rest

/-- The object that defining the fields in order makes. -/
def ofFields (fields : List (JsString × Json Number)) : List (JsString × Json Number) :=
  fields.foldl (fun object field => define field.1 field.2 object) []

section Plain

variable [JsNumber Number]

mutual

/-- No object has a key twice, and all numbers are finite. -/
def Plain : Json Number → Prop
  | .null => True
  | .bool _ => True
  | .number value => JsNumber.isFinite value = true
  | .string _ => True
  | .array elements => PlainElements elements
  | .object fields => (fields.map Prod.fst).Nodup ∧ PlainFields fields

def PlainElements : List (Json Number) → Prop
  | [] => True
  | value :: rest => Plain value ∧ PlainElements rest

def PlainFields : List (JsString × Json Number) → Prop
  | [] => True
  | (_, value) :: rest => Plain value ∧ PlainFields rest

end

end Plain

/-! ### Printing -/

/-- The character of a hexadecimal digit, in lower case. -/
def hexUnit (digit : Nat) : UInt16 :=
  if digit < 10 then (0x30 + digit).toUInt16 else (0x57 + digit).toUInt16

/-- One code unit of a printed string. A surrogate gets here only when it stands alone. -/
def quoteUnit (unit : UInt16) : JsString :=
  if unit = 0x22 then [0x5C, 0x22]
  else if unit = 0x5C then [0x5C, 0x5C]
  else if unit = 0x08 then [0x5C, 0x62]
  else if unit = 0x0C then [0x5C, 0x66]
  else if unit = 0x0A then [0x5C, 0x6E]
  else if unit = 0x0D then [0x5C, 0x72]
  else if unit = 0x09 then [0x5C, 0x74]
  else if unit.toNat < 0x20 ∨ isSurrogate unit = true then
    [0x5C, 0x75, hexUnit (unit.toNat / 0x1000), hexUnit (unit.toNat / 0x100 % 0x10),
      hexUnit (unit.toNat / 0x10 % 0x10), hexUnit (unit.toNat % 0x10)]
  else [unit]

/-- The code units of a printed string; a surrogate pair is printed as it is. -/
def quoteUnits : JsString → JsString
  | [] => []
  | [unit] => quoteUnit unit
  | unit :: next :: rest =>
    if isHighSurrogate unit && isLowSurrogate next then unit :: next :: quoteUnits rest
    else quoteUnit unit ++ quoteUnits (next :: rest)

def quote (text : JsString) : JsString := 0x22 :: quoteUnits text ++ [0x22]

variable [JsNumber Number]

mutual

/-- `JSON.stringify(value)`. -/
def stringify : Json Number → JsString
  | .null => jsString "null"
  | .bool true => jsString "true"
  | .bool false => jsString "false"
  | .number value =>
    if JsNumber.isFinite value then JsNumber.toText value else jsString "null"
  | .string value => quote value
  | .array [] => [0x5B, 0x5D]
  | .array (value :: rest) => 0x5B :: stringify value ++ stringifyElements rest
  | .object [] => [0x7B, 0x7D]
  | .object ((key, value) :: rest) =>
    0x7B :: quote key ++ 0x3A :: stringify value ++ stringifyFields rest

/-- The elements after the first, each behind a comma, and the bracket that ends them. -/
def stringifyElements : List (Json Number) → JsString
  | [] => [0x5D]
  | value :: rest => 0x2C :: stringify value ++ stringifyElements rest

/-- The fields after the first, each behind a comma, and the brace that ends them. -/
def stringifyFields : List (JsString × Json Number) → JsString
  | [] => [0x7D]
  | (key, value) :: rest =>
    0x2C :: quote key ++ 0x3A :: stringify value ++ stringifyFields rest

end

/-! ### Parsing -/

def isSpace (unit : UInt16) : Bool :=
  unit == 0x20 || unit == 0x09 || unit == 0x0A || unit == 0x0D

def skipSpace (text : JsString) : JsString := text.dropWhile isSpace

/-- The value of a hexadecimal digit of either case. -/
def hexValue (unit : UInt16) : Option Nat :=
  if isDigit unit then some (unit.toNat - 0x30)
  else if 0x61 ≤ unit.toNat && unit.toNat ≤ 0x66 then some (unit.toNat - 0x57)
  else if 0x41 ≤ unit.toNat && unit.toNat ≤ 0x46 then some (unit.toNat - 0x37)
  else none

/-- The code unit of four hexadecimal digits. -/
def hexUnits (first second third fourth : UInt16) : Option UInt16 :=
  (hexValue first).bind fun first =>
    (hexValue second).bind fun second =>
      (hexValue third).bind fun third =>
        (hexValue fourth).map fun fourth =>
          (((first * 0x10 + second) * 0x10 + third) * 0x10 + fourth).toUInt16

/-- The code unit of an escape of one character. -/
def escapedUnit (escape : UInt16) : Option UInt16 :=
  if escape = 0x22 then some 0x22
  else if escape = 0x5C then some 0x5C
  else if escape = 0x2F then some 0x2F
  else if escape = 0x62 then some 0x08
  else if escape = 0x66 then some 0x0C
  else if escape = 0x6E then some 0x0A
  else if escape = 0x72 then some 0x0D
  else if escape = 0x74 then some 0x09
  else none

/-- Put a code unit before what was read behind it. -/
def prependUnit (unit : UInt16) (read : JsString × JsString) : JsString × JsString :=
  (unit :: read.1, read.2)

/-- The rest of a string literal, from behind its opening quote, and what follows it. -/
def parseString : JsString → Option (JsString × JsString)
  | [] => none
  | unit :: rest =>
    if unit = 0x22 then some ([], rest)
    else if unit = 0x5C then
      match rest with
      | [] => none
      | escape :: rest =>
        if escape = 0x75 then
          match rest with
          | first :: second :: third :: fourth :: rest =>
            (hexUnits first second third fourth).bind fun unit =>
              (parseString rest).map (prependUnit unit)
          | _ => none
        else
          (escapedUnit escape).bind fun unit => (parseString rest).map (prependUnit unit)
    else if unit.toNat < 0x20 then none
    else (parseString rest).map (prependUnit unit)

/-- A literal name at the start of a text. -/
def parseName (name : JsString) (value : Json Number) (text : JsString) :
    Option (Json Number × JsString) :=
  if text.take name.length = name then some (value, text.drop name.length) else none

def parseNumber (text : JsString) : Option (Json Number × JsString) :=
  (scanNumber text).map fun literal => (.number (JsNumber.ofLiteral literal.1), literal.2)

mutual

/-- The value a text starts with, and what follows it. `fuel` bounds the nesting and the number
of elements; the length of the text is always enough. -/
def parseValue : Nat → JsString → Option (Json Number × JsString)
  | 0, _ => none
  | fuel + 1, text =>
    match skipSpace text with
    | [] => none
    | unit :: rest =>
      if unit = 0x22 then (parseString rest).map fun read => (.string read.1, read.2)
      else if unit = 0x5B then
        match skipSpace rest with
        | [] => none
        | next :: after =>
          if next = 0x5D then some (.array [], after)
          else (parseElements fuel (next :: after)).map fun read => (.array read.1, read.2)
      else if unit = 0x7B then
        match skipSpace rest with
        | [] => none
        | next :: after =>
          if next = 0x7D then some (.object [], after)
          else (parseFields fuel (next :: after)).map fun read => (.object (ofFields read.1), read.2)
      else if unit = 0x6E then parseName (jsString "null") .null (unit :: rest)
      else if unit = 0x74 then parseName (jsString "true") (.bool true) (unit :: rest)
      else if unit = 0x66 then parseName (jsString "false") (.bool false) (unit :: rest)
      else parseNumber (unit :: rest)

/-- Elements up to the bracket that ends them. -/
def parseElements : Nat → JsString → Option (List (Json Number) × JsString)
  | 0, _ => none
  | fuel + 1, text =>
    (parseValue fuel text).bind fun read =>
      match skipSpace read.2 with
      | [] => none
      | unit :: rest =>
        if unit = 0x2C then
          (parseElements fuel rest).map fun others => (read.1 :: others.1, others.2)
        else if unit = 0x5D then some ([read.1], rest)
        else none

/-- Fields up to the brace that ends them. -/
def parseFields : Nat → JsString → Option (List (JsString × Json Number) × JsString)
  | 0, _ => none
  | fuel + 1, text =>
    match skipSpace text with
    | [] => none
    | unit :: rest =>
      if unit = 0x22 then
        (parseString rest).bind fun key =>
          match skipSpace key.2 with
          | [] => none
          | colon :: rest =>
            if colon = 0x3A then
              (parseValue fuel rest).bind fun read =>
                match skipSpace read.2 with
                | [] => none
                | unit :: rest =>
                  if unit = 0x2C then
                    (parseFields fuel rest).map fun others =>
                      ((key.1, read.1) :: others.1, others.2)
                  else if unit = 0x7D then some ([(key.1, read.1)], rest)
                  else none
            else none
      else none

end

/-- `JSON.parse(text)`; `none` is the `SyntaxError`. -/
def parse (text : JsString) : Option (Json Number) :=
  (parseValue (text.length + 1) text).bind fun read =>
    if skipSpace read.2 = [] then some read.1 else none

/-! ### Strings -/

section Strings

theorem hexValue_hexUnit {digit : Nat} (small : digit < 16) :
    hexValue (hexUnit digit) = some digit := by
  have every : ∀ value : Fin 16, hexValue (hexUnit value.val) = some value.val := by
    decide
  exact every ⟨digit, small⟩

theorem hexUnits_hexUnit (unit : UInt16) :
    hexUnits (hexUnit (unit.toNat / 0x1000)) (hexUnit (unit.toNat / 0x100 % 0x10))
      (hexUnit (unit.toNat / 0x10 % 0x10)) (hexUnit (unit.toNat % 0x10)) = some unit := by
  have small := unit.toNat_lt
  rw [hexUnits, hexValue_hexUnit (by omega), hexValue_hexUnit (by omega),
    hexValue_hexUnit (by omega), hexValue_hexUnit (by omega)]
  simp only [Option.bind_some, Option.map_some]
  rw [show ((unit.toNat / 0x1000 * 0x10 + unit.toNat / 0x100 % 0x10) * 0x10 +
    unit.toNat / 0x10 % 0x10) * 0x10 + unit.toNat % 0x10 = unit.toNat by omega]
  exact congrArg some UInt16.ofNat_toNat

theorem parseString_end (tail : JsString) : parseString (0x22 :: tail) = some ([], tail) := by
  rw [parseString.eq_def]
  exact if_pos rfl

theorem parseString_raw {unit : UInt16} (plain : unit ≠ 0x22) (unescaped : unit ≠ 0x5C)
    (printable : ¬ unit.toNat < 0x20) (tail : JsString) :
    parseString (unit :: tail) = (parseString tail).map (prependUnit unit) := by
  rw [parseString.eq_def]
  dsimp only
  rw [if_neg plain, if_neg unescaped, if_neg printable]

theorem parseString_escape {escape unit : UInt16} (short : escape ≠ 0x75)
    (means : escapedUnit escape = some unit) (tail : JsString) :
    parseString (0x5C :: escape :: tail) = (parseString tail).map (prependUnit unit) := by
  rw [parseString.eq_def]
  dsimp only
  rw [if_neg (by decide), if_pos rfl, if_neg short, means, Option.bind_some]

/-- One printed code unit is read back. -/
theorem parseString_quoteUnit (unit : UInt16) (tail : JsString) :
    parseString (quoteUnit unit ++ tail) = (parseString tail).map (prependUnit unit) := by
  unfold quoteUnit
  split
  · rename_i same
    rw [same]
    exact parseString_escape (by decide) (by decide) tail
  split
  · rename_i same
    rw [same]
    exact parseString_escape (by decide) (by decide) tail
  split
  · rename_i same
    rw [same]
    exact parseString_escape (by decide) (by decide) tail
  split
  · rename_i same
    rw [same]
    exact parseString_escape (by decide) (by decide) tail
  split
  · rename_i same
    rw [same]
    exact parseString_escape (by decide) (by decide) tail
  split
  · rename_i same
    rw [same]
    exact parseString_escape (by decide) (by decide) tail
  split
  · rename_i same
    rw [same]
    exact parseString_escape (by decide) (by decide) tail
  split
  · simp only [List.cons_append, List.nil_append]
    rw [parseString.eq_def]
    dsimp only
    rw [if_neg (by decide), if_pos rfl, if_pos rfl, hexUnits_hexUnit, Option.bind_some]
  · rename_i quoted escaped _ _ _ _ _ printable
    rw [not_or] at printable
    exact parseString_raw quoted escaped printable.1 tail

/-- A surrogate is read as it is. -/
theorem parseString_surrogate {unit : UInt16} (surrogate : 0xD800 ≤ unit.toNat) (tail : JsString) :
    parseString (unit :: tail) = (parseString tail).map (prependUnit unit) := by
  refine parseString_raw ?_ ?_ (by omega) tail
  · intro same
    rw [same] at surrogate
    exact absurd surrogate (by decide)
  · intro same
    rw [same] at surrogate
    exact absurd surrogate (by decide)

theorem parseString_quoteUnits (text tail : JsString) :
    parseString (quoteUnits text ++ 0x22 :: tail) = some (text, tail) := by
  induction text using quoteUnits.induct with
  | case1 =>
    rw [quoteUnits, List.nil_append, parseString_end]
  | case2 unit =>
    rw [quoteUnits, parseString_quoteUnit, parseString_end]
    rfl
  | case3 unit next rest pair inductionHypothesis =>
    rw [quoteUnits, if_pos pair]
    simp only [isHighSurrogate, isLowSurrogate, Bool.and_eq_true, decide_eq_true_eq] at pair
    rw [List.cons_append, List.cons_append, parseString_surrogate (by omega),
      parseString_surrogate (by omega), inductionHypothesis]
    rfl
  | case4 unit next rest single inductionHypothesis =>
    rw [quoteUnits, if_neg single, List.append_assoc, parseString_quoteUnit, inductionHypothesis]
    rfl

theorem quote_append (text tail : JsString) :
    quote text ++ tail = 0x22 :: (quoteUnits text ++ 0x22 :: tail) := by
  rw [quote, List.append_assoc]
  rfl

end Strings

/-! ### What a printed value starts with -/

theorem skipSpace_cons {unit : UInt16} (visible : isSpace unit = false) (rest : JsString) :
    skipSpace (unit :: rest) = unit :: rest := by
  rw [skipSpace, List.dropWhile_cons, visible, if_neg Bool.false_ne_true]

omit [JsNumber Number] in
theorem isNumberLiteral_head {literal : JsString} (isLiteral : IsNumberLiteral literal) :
    ∃ unit rest, literal = unit :: rest ∧ (isDigit unit = true ∨ unit = 0x2D) := by
  have scanned := isLiteral [] rfl
  rw [List.append_nil] at scanned
  cases literal with
  | nil => exact absurd scanned (Option.some_ne_none _).symm
  | cons unit rest =>
    refine ⟨unit, rest, rfl, ?_⟩
    by_cases sign : unit = 0x2D
    · exact Or.inr sign
    · rw [scanNumber, if_neg sign, scanUnsigned, scanInteger] at scanned
      by_cases zero : unit = 0x30
      · rw [zero]
        exact Or.inl rfl
      · rw [if_neg zero] at scanned
        by_cases digit : isDigit unit = true
        · exact Or.inl digit
        · rw [if_neg digit] at scanned
          exact absurd scanned (Option.some_ne_none _).symm

theorem jsString_null : jsString "null" = [0x6E, 0x75, 0x6C, 0x6C] := by decide

theorem jsString_true : jsString "true" = [0x74, 0x72, 0x75, 0x65] := by decide

theorem jsString_false : jsString "false" = [0x66, 0x61, 0x6C, 0x73, 0x65] := by decide

/-- A number starts with a digit or a sign, which starts nothing else. -/
theorem numberHead {unit : UInt16} (head : isDigit unit = true ∨ unit = 0x2D) :
    isSpace unit = false ∧ unit ≠ 0x22 ∧ unit ≠ 0x5B ∧ unit ≠ 0x5D ∧ unit ≠ 0x7B ∧
      unit ≠ 0x6E ∧ unit ≠ 0x74 ∧ unit ≠ 0x66 := by
  rcases head with digit | rfl
  · have differs : ∀ other : UInt16, isDigit other = false → unit ≠ other := by
      intro other notDigit same
      rw [same, notDigit] at digit
      exact Bool.false_ne_true digit
    have space : isSpace unit = false := by
      simp only [isSpace, Bool.or_eq_false_iff, beq_eq_false_iff_ne]
      exact ⟨⟨⟨differs _ rfl, differs _ rfl⟩, differs _ rfl⟩, differs _ rfl⟩
    exact ⟨space, differs _ rfl, differs _ rfl, differs _ rfl, differs _ rfl, differs _ rfl,
      differs _ rfl, differs _ rfl⟩
  · decide

/-- A printed value starts with a visible character that does not end an array. -/
theorem stringify_head [LawfulJsNumber Number] {value : Json Number} (plain : value.Plain) :
    ∃ unit rest, stringify value = unit :: rest ∧ isSpace unit = false ∧ unit ≠ 0x5D := by
  cases value with
  | null =>
    rw [stringify, jsString_null]
    exact ⟨_, _, rfl, rfl, by decide⟩
  | bool value =>
    cases value with
    | true =>
      rw [stringify, jsString_true]
      exact ⟨_, _, rfl, rfl, by decide⟩
    | false =>
      rw [stringify, jsString_false]
      exact ⟨_, _, rfl, rfl, by decide⟩
  | number value =>
    rw [Plain] at plain
    rw [stringify, if_pos plain]
    obtain ⟨unit, rest, same, head⟩ :=
      isNumberLiteral_head (LawfulJsNumber.isNumberLiteral_toText value plain)
    exact ⟨unit, rest, same, (numberHead head).1, (numberHead head).2.2.2.1⟩
  | string value =>
    rw [stringify, quote]
    exact ⟨_, _, rfl, rfl, by decide⟩
  | array elements =>
    cases elements with
    | nil =>
      rw [stringify]
      exact ⟨_, _, rfl, rfl, by decide⟩
    | cons value rest =>
      rw [stringify]
      exact ⟨_, _, rfl, rfl, by decide⟩
  | object fields =>
    cases fields with
    | nil =>
      rw [stringify]
      exact ⟨_, _, rfl, rfl, by decide⟩
    | cons field rest =>
      rw [stringify]
      exact ⟨_, _, rfl, rfl, by decide⟩

/-! ### The fuel a value needs -/

mutual

def cost : Json Number → Nat
  | .null => 1
  | .bool _ => 1
  | .number _ => 1
  | .string _ => 1
  | .array elements => 1 + costElements elements
  | .object fields => 1 + costFields fields

def costElements : List (Json Number) → Nat
  | [] => 0
  | value :: rest => 1 + cost value + costElements rest

def costFields : List (JsString × Json Number) → Nat
  | [] => 0
  | (_, value) :: rest => 1 + cost value + costFields rest

end

mutual

theorem cost_le [LawfulJsNumber Number] :
    ∀ {value : Json Number}, value.Plain → cost value ≤ (stringify value).length
  | .null, _ => by
    rw [stringify, jsString_null, cost]
    decide
  | .bool true, _ => by
    rw [stringify, jsString_true, cost]
    decide
  | .bool false, _ => by
    rw [stringify, jsString_false, cost]
    decide
  | .number value, plain => by
    obtain ⟨unit, rest, same, _, _⟩ := stringify_head plain
    rw [same, cost, List.length_cons]
    omega
  | .string value, _ => by
    rw [stringify, quote, cost]
    simp only [List.cons_append, List.length_cons]
    omega
  | .array [], _ => by
    rw [stringify, cost, costElements]
    decide
  | .array (value :: rest), plain => by
    rw [Plain, PlainElements] at plain
    have first := cost_le plain.1
    have others := costElements_lt plain.2
    rw [stringify, cost, costElements]
    simp only [List.cons_append, List.length_cons, List.length_append]
    omega
  | .object [], _ => by
    rw [stringify, cost, costFields]
    decide
  | .object ((key, value) :: rest), plain => by
    rw [Plain, PlainFields] at plain
    have first := cost_le plain.2.1
    have others := costFields_lt plain.2.2
    rw [stringify, cost, costFields]
    simp only [List.cons_append, List.length_cons, List.length_append]
    omega

theorem costElements_lt [LawfulJsNumber Number] :
    ∀ {elements : List (Json Number)}, PlainElements elements →
      costElements elements < (stringifyElements elements).length
  | [], _ => by
    rw [stringifyElements, costElements]
    decide
  | value :: rest, plain => by
    rw [PlainElements] at plain
    have first := cost_le plain.1
    have others := costElements_lt plain.2
    rw [stringifyElements, costElements]
    simp only [List.cons_append, List.length_cons, List.length_append]
    omega

theorem costFields_lt [LawfulJsNumber Number] :
    ∀ {fields : List (JsString × Json Number)}, PlainFields fields →
      costFields fields < (stringifyFields fields).length
  | [], _ => by
    rw [stringifyFields, costFields]
    decide
  | (key, value) :: rest, plain => by
    rw [PlainFields] at plain
    have first := cost_le plain.1
    have others := costFields_lt plain.2
    rw [stringifyFields, costFields]
    simp only [List.cons_append, List.length_cons, List.length_append]
    omega

end

/-! ### Objects -/

section Objects

omit [JsNumber Number]

theorem define_of_not_mem {key : JsString} {value : Json Number}
    {fields : List (JsString × Json Number)} (fresh : key ∉ fields.map Prod.fst) :
    define key value fields = fields ++ [(key, value)] := by
  induction fields with
  | nil => rfl
  | cons field rest inductionHypothesis =>
    obtain ⟨other, old⟩ := field
    rw [List.map_cons, List.mem_cons, not_or] at fresh
    rw [define, if_neg (Ne.symm fresh.1), inductionHypothesis fresh.2, List.cons_append]

theorem foldl_define {fields object : List (JsString × Json Number)}
    (distinct : ((object ++ fields).map Prod.fst).Nodup) :
    fields.foldl (fun object field => define field.1 field.2 object) object = object ++ fields := by
  induction fields generalizing object with
  | nil => rw [List.foldl_nil, List.append_nil]
  | cons field rest inductionHypothesis =>
    have fresh : field.1 ∉ object.map Prod.fst := by
      rw [List.map_append, List.map_cons] at distinct
      intro member
      exact (List.nodup_append.mp distinct).2.2 _ member _ List.mem_cons_self rfl
    rw [List.foldl_cons, define_of_not_mem fresh, inductionHypothesis]
    · rw [List.append_assoc, List.singleton_append]
    · rw [List.append_assoc, List.singleton_append]
      exact distinct

/-- Distinct keys are kept as they are. -/
theorem ofFields_of_nodup {fields : List (JsString × Json Number)}
    (distinct : (fields.map Prod.fst).Nodup) : ofFields fields = fields := by
  rw [ofFields, foldl_define (by rw [List.nil_append]; exact distinct), List.nil_append]

theorem mem_keys_define {key other : JsString} {value : Json Number}
    {fields : List (JsString × Json Number)}
    (member : other ∈ (define key value fields).map Prod.fst) :
    other = key ∨ other ∈ fields.map Prod.fst := by
  induction fields with
  | nil => exact Or.inl (List.mem_singleton.mp member)
  | cons field rest inductionHypothesis =>
    obtain ⟨first, old⟩ := field
    rw [define] at member
    split at member
    · rename_i same
      rw [List.map_cons, same]
      exact Or.inr member
    · rw [List.map_cons, List.mem_cons] at member ⊢
      rcases member with isFirst | member
      · exact Or.inr (Or.inl isFirst)
      · exact (inductionHypothesis member).imp_right Or.inr

theorem mem_keys_foldl_define {fields object : List (JsString × Json Number)} {key : JsString}
    (member : key ∈
      (fields.foldl (fun object field => define field.1 field.2 object) object).map Prod.fst) :
    key ∈ object.map Prod.fst ∨ key ∈ fields.map Prod.fst := by
  induction fields generalizing object with
  | nil => exact Or.inl member
  | cons field rest inductionHypothesis =>
    rw [List.map_cons, List.mem_cons]
    rcases inductionHypothesis member with before | after
    · exact (mem_keys_define before).elim (fun own => Or.inr (Or.inl own)) Or.inl
    · exact Or.inr (Or.inr after)

/-- An object has only keys that were defined. -/
theorem mem_keys_ofFields {fields : List (JsString × Json Number)} {key : JsString}
    (member : key ∈ (ofFields fields).map Prod.fst) : key ∈ fields.map Prod.fst :=
  (mem_keys_foldl_define member).resolve_left List.not_mem_nil

theorem nodup_keys_define {key : JsString} {value : Json Number}
    {fields : List (JsString × Json Number)} (distinct : (fields.map Prod.fst).Nodup) :
    ((define key value fields).map Prod.fst).Nodup := by
  induction fields with
  | nil => exact List.nodup_singleton key
  | cons field rest inductionHypothesis =>
    obtain ⟨other, old⟩ := field
    rw [List.map_cons, List.nodup_cons] at distinct
    rw [define]
    split
    · rename_i same
      rw [List.map_cons, List.nodup_cons, ← same]
      exact distinct
    · rename_i differs
      rw [List.map_cons, List.nodup_cons]
      refine ⟨fun member => ?_, inductionHypothesis distinct.2⟩
      exact (mem_keys_define member).elim differs distinct.1

end Objects

theorem plainFields_define {key : JsString} {value : Json Number} (plain : value.Plain)
    {fields : List (JsString × Json Number)} (others : PlainFields fields) :
    PlainFields (define key value fields) := by
  induction fields with
  | nil => exact ⟨plain, trivial⟩
  | cons field rest inductionHypothesis =>
    obtain ⟨other, old⟩ := field
    rw [PlainFields] at others
    rw [define]
    split
    · exact ⟨plain, others.2⟩
    · exact ⟨others.1, inductionHypothesis others.2⟩

theorem plain_foldl_define {fields object : List (JsString × Json Number)}
    (values : PlainFields fields) (plain : (Json.object object).Plain) :
    (Json.object
      (fields.foldl (fun object field => define field.1 field.2 object) object)).Plain := by
  induction fields generalizing object with
  | nil => exact plain
  | cons field rest inductionHypothesis =>
    obtain ⟨key, value⟩ := field
    rw [PlainFields] at values
    rw [Plain] at plain
    refine inductionHypothesis values.2 ?_
    rw [Plain]
    exact ⟨nodup_keys_define plain.1, plainFields_define values.1 plain.2⟩

/-- Plain values make a plain object, whatever their keys. -/
theorem plain_ofFields {fields : List (JsString × Json Number)} (values : PlainFields fields) :
    (Json.object (ofFields fields)).Plain := by
  refine plain_foldl_define values ?_
  rw [Plain]
  exact ⟨List.nodup_nil, trivial⟩

/-! ### The round trip -/

omit [JsNumber Number] in
theorem parseName_append (name tail : JsString) (value : Json Number) :
    parseName name value (name ++ tail) = some (value, tail) := by
  rw [parseName, List.take_left, if_pos rfl, List.drop_left]

/-- Elements end with a bracket, whatever follows. -/
theorem endsNumber_stringifyElements (elements : List (Json Number)) (tail : JsString) :
    endsNumber (stringifyElements elements ++ tail) = true := by
  cases elements with
  | nil =>
    rw [stringifyElements]
    rfl
  | cons value rest =>
    rw [stringifyElements]
    rfl

theorem endsNumber_stringifyFields (fields : List (JsString × Json Number)) (tail : JsString) :
    endsNumber (stringifyFields fields ++ tail) = true := by
  cases fields with
  | nil =>
    rw [stringifyFields]
    rfl
  | cons field rest =>
    obtain ⟨key, value⟩ := field
    rw [stringifyFields]
    rfl

theorem printedField_append (opening : UInt16) (key : JsString) (value : Json Number)
    (rest tail : JsString) :
    (opening :: quote key ++ 0x3A :: stringify value ++ rest) ++ tail =
      opening :: 0x22 :: (quoteUnits key ++ 0x22 :: 0x3A :: (stringify value ++ (rest ++ tail))) := by
  rw [quote]
  simp only [List.cons_append, List.append_assoc, List.nil_append]

mutual

/-- A printed value is parsed, whatever follows it. -/
theorem parseValue_stringify [LawfulJsNumber Number] :
    ∀ {value : Json Number}, value.Plain → ∀ {fuel : Nat} {tail : JsString},
      cost value ≤ fuel → endsNumber tail = true →
      parseValue fuel (stringify value ++ tail) = some (value, tail)
  | value, _, 0, _, enough, _ => by
    have positive : 0 < cost value := by
      cases value <;> rw [cost] <;> omega
    omega
  | .null, _, fuel + 1, tail, _, _ => by
    rw [stringify, parseValue, jsString_null, List.cons_append, skipSpace_cons rfl]
    dsimp only
    rw [if_neg (by decide), if_neg (by decide), if_neg (by decide), if_pos rfl,
      ← List.cons_append, parseName_append]
  | .bool true, _, fuel + 1, tail, _, _ => by
    rw [stringify, parseValue, jsString_true, List.cons_append, skipSpace_cons rfl]
    dsimp only
    rw [if_neg (by decide), if_neg (by decide), if_neg (by decide), if_neg (by decide), if_pos rfl,
      ← List.cons_append, parseName_append]
  | .bool false, _, fuel + 1, tail, _, _ => by
    rw [stringify, parseValue, jsString_false, List.cons_append, skipSpace_cons rfl]
    dsimp only
    rw [if_neg (by decide), if_neg (by decide), if_neg (by decide), if_neg (by decide),
      if_neg (by decide), if_pos rfl, ← List.cons_append, parseName_append]
  | .number value, plain, fuel + 1, tail, _, ends => by
    rw [Plain] at plain
    have isLiteral := LawfulJsNumber.isNumberLiteral_toText value plain
    have scanned := isLiteral tail ends
    obtain ⟨unit, rest, same, head⟩ := isNumberLiteral_head isLiteral
    obtain ⟨space, quoted, bracket, _, brace, none, yes, no⟩ := numberHead head
    rw [stringify, if_pos plain, parseValue]
    rw [same, List.cons_append] at scanned ⊢
    rw [skipSpace_cons space]
    dsimp only
    rw [if_neg quoted, if_neg bracket, if_neg brace, if_neg none, if_neg yes, if_neg no,
      parseNumber,
      scanned, Option.map_some, ← same, LawfulJsNumber.ofLiteral_toText value plain]
  | .string value, _, fuel + 1, tail, _, _ => by
    rw [stringify, parseValue, quote_append, skipSpace_cons rfl]
    dsimp only
    rw [if_pos rfl, parseString_quoteUnits, Option.map_some]
  | .array [], _, fuel + 1, tail, _, _ => by
    rw [stringify, parseValue, List.cons_append, skipSpace_cons rfl]
    dsimp only
    rw [if_neg (by decide), if_pos rfl, List.cons_append, skipSpace_cons rfl]
    dsimp only
    rw [if_pos rfl, List.nil_append]
  | .array (value :: rest), plain, fuel + 1, tail, enough, _ => by
    rw [Plain, PlainElements] at plain
    rw [cost, costElements] at enough
    obtain ⟨unit, text, head, space, bracket⟩ := stringify_head plain.1
    obtain ⟨less, rfl⟩ : ∃ less, fuel = less + 1 := ⟨fuel - 1, by omega⟩
    have first := parseValue_stringify plain.1 (show cost value ≤ less by omega)
      (endsNumber_stringifyElements rest tail)
    have elements := parseElements_stringify plain.2 first (show costElements rest ≤ less by omega)
    rw [stringify, parseValue, List.cons_append, List.cons_append, List.append_assoc,
      skipSpace_cons rfl]
    dsimp only
    rw [head, List.cons_append] at elements ⊢
    rw [if_neg (by decide), if_pos rfl, skipSpace_cons space]
    dsimp only
    rw [if_neg bracket, elements, Option.map_some]
  | .object [], _, fuel + 1, tail, _, _ => by
    rw [stringify, parseValue, List.cons_append, skipSpace_cons rfl]
    dsimp only
    rw [if_neg (by decide), if_neg (by decide), if_pos rfl, List.cons_append, skipSpace_cons rfl]
    dsimp only
    rw [if_pos rfl, List.nil_append]
  | .object ((key, value) :: rest), plain, fuel + 1, tail, enough, _ => by
    rw [Plain, PlainFields] at plain
    rw [cost, costFields] at enough
    obtain ⟨less, rfl⟩ : ∃ less, fuel = less + 1 := ⟨fuel - 1, by omega⟩
    have first := parseValue_stringify plain.2.1 (show cost value ≤ less by omega)
      (endsNumber_stringifyFields rest tail)
    have fields : parseFields (less + 1) (0x22 :: (quoteUnits key ++ 0x22 :: 0x3A ::
        (stringify value ++ (stringifyFields rest ++ tail)))) = some ((key, value) :: rest, tail) :=
      parseFields_stringify plain.2.2 first (show costFields rest ≤ less by omega)
    rw [stringify, printedField_append, parseValue, skipSpace_cons rfl]
    dsimp only
    rw [if_neg (by decide), if_neg (by decide), if_pos rfl, skipSpace_cons rfl]
    dsimp only
    rw [if_neg (by decide), fields, Option.map_some]
    dsimp only
    rw [ofFields_of_nodup plain.1]

/-- The elements after a first one. -/
theorem parseElements_stringify [LawfulJsNumber Number] :
    ∀ {elements : List (Json Number)}, PlainElements elements →
    ∀ {fuel : Nat} {value : Json Number} {text tail : JsString},
      parseValue fuel text = some (value, stringifyElements elements ++ tail) →
      costElements elements ≤ fuel →
        parseElements (fuel + 1) text = some (value :: elements, tail)
  | [], _, fuel, value, text, tail, first, _ => by
    rw [parseElements, first, stringifyElements, Option.bind_some, List.cons_append,
      skipSpace_cons rfl]
    dsimp only
    rw [if_neg (by decide), if_pos rfl, List.nil_append]
  | next :: rest, plain, fuel, value, text, tail, first, enough => by
    rw [PlainElements] at plain
    rw [costElements] at enough
    obtain ⟨less, rfl⟩ : ∃ less, fuel = less + 1 := ⟨fuel - 1, by omega⟩
    have second := parseValue_stringify plain.1 (show cost next ≤ less by omega)
      (endsNumber_stringifyElements rest tail)
    have others := parseElements_stringify plain.2 second (show costElements rest ≤ less by omega)
    rw [parseElements, first, stringifyElements, Option.bind_some, List.cons_append,
      List.cons_append, List.append_assoc, skipSpace_cons rfl]
    dsimp only
    rw [if_pos rfl, others, Option.map_some]

/-- The fields after a first one. -/
theorem parseFields_stringify [LawfulJsNumber Number] :
    ∀ {fields : List (JsString × Json Number)}, PlainFields fields →
    ∀ {fuel : Nat} {key : JsString} {value : Json Number} {text tail : JsString},
      parseValue fuel text = some (value, stringifyFields fields ++ tail) →
      costFields fields ≤ fuel →
        parseFields (fuel + 1) (0x22 :: (quoteUnits key ++ 0x22 :: 0x3A :: text)) =
          some ((key, value) :: fields, tail)
  | [], _, fuel, key, value, text, tail, first, _ => by
    rw [parseFields, skipSpace_cons rfl]
    dsimp only
    rw [if_pos rfl, parseString_quoteUnits, Option.bind_some, skipSpace_cons rfl]
    dsimp only
    rw [if_pos rfl, first, stringifyFields, Option.bind_some, List.cons_append, skipSpace_cons rfl]
    dsimp only
    rw [if_neg (by decide), if_pos rfl, List.nil_append]
  | (next, content) :: rest, plain, fuel, key, value, text, tail, first, enough => by
    rw [PlainFields] at plain
    rw [costFields] at enough
    obtain ⟨less, rfl⟩ : ∃ less, fuel = less + 1 := ⟨fuel - 1, by omega⟩
    have second := parseValue_stringify plain.1 (show cost content ≤ less by omega)
      (endsNumber_stringifyFields rest tail)
    have others : parseFields (less + 1) (0x22 :: (quoteUnits next ++ 0x22 :: 0x3A ::
        (stringify content ++ (stringifyFields rest ++ tail)))) =
          some ((next, content) :: rest, tail) :=
      parseFields_stringify plain.2 second (show costFields rest ≤ less by omega)
    rw [parseFields, skipSpace_cons rfl]
    dsimp only
    rw [if_pos rfl, parseString_quoteUnits, Option.bind_some, skipSpace_cons rfl]
    dsimp only
    rw [if_pos rfl, first, stringifyFields, Option.bind_some, printedField_append,
      skipSpace_cons rfl]
    dsimp only
    rw [if_pos rfl, others, Option.map_some]

end

/-- Parsing undoes printing. -/
theorem parse_stringify [LawfulJsNumber Number] {value : Json Number} (plain : value.Plain) :
    parse (stringify value) = some value := by
  have enough := cost_le plain
  have parsed :=
    parseValue_stringify plain (show cost value ≤ (stringify value).length + 1 by omega)
    (show endsNumber [] = true from rfl)
  rw [List.append_nil] at parsed
  rw [parse, parsed, Option.bind_some]
  exact if_pos rfl

/-! ### Printed text is well-formed -/

section WellFormed

/-- No unit of the text is a surrogate. -/
def Unpaired (text : JsString) : Prop := ∀ unit ∈ text, isSurrogate unit = false

theorem Unpaired.wellFormed : ∀ {text : JsString}, Unpaired text → isWellFormed text = true
  | [], _ => rfl
  | unit :: rest, unpaired => by
    rw [isWellFormed_cons (unpaired unit List.mem_cons_self)]
    exact Unpaired.wellFormed fun other member => unpaired other (List.mem_cons_of_mem _ member)

theorem Unpaired.append {first second : JsString} (before : Unpaired first)
    (after : Unpaired second) : Unpaired (first ++ second) := by
  intro unit member
  rcases List.mem_append.mp member with inFirst | inSecond
  · exact before unit inFirst
  · exact after unit inSecond

theorem unpaired_singleton {unit : UInt16} (single : isSurrogate unit = false) :
    Unpaired [unit] := by
  intro other member
  rw [List.mem_singleton.mp member]
  exact single

theorem isSurrogate_of_isDigit {unit : UInt16} (digit : isDigit unit = true) :
    isSurrogate unit = false := by
  simp only [isDigit, isSurrogate, Bool.and_eq_true, decide_eq_true_eq,
    Bool.and_eq_false_iff, decide_eq_false_iff_not] at *
  omega

theorem scanDigits_unpaired (text : JsString) : Unpaired (scanDigits text).1 := by
  intro unit member
  exact isSurrogate_of_isDigit (List.mem_takeWhile_imp member)

theorem scanInteger_unpaired {text : JsString} {scan : JsString × JsString}
    (scanned : scanInteger text = some scan) : Unpaired scan.1 := by
  cases text with
  | nil => exact nomatch scanned
  | cons unit rest =>
    rw [scanInteger] at scanned
    by_cases zero : unit = 0x30
    · rw [if_pos zero, zero] at scanned
      rw [← Option.some.inj scanned]
      exact unpaired_singleton (by decide)
    · rw [if_neg zero] at scanned
      by_cases digit : isDigit unit = true
      · rw [if_pos digit] at scanned
        rw [← Option.some.inj scanned]
        exact scanDigits_unpaired _
      · rw [if_neg digit] at scanned
        exact nomatch scanned

theorem scanFraction_unpaired {text : JsString} {scan : JsString × JsString}
    (scanned : scanFraction text = some scan) : Unpaired scan.1 := by
  cases text with
  | nil =>
    rw [← Option.some.inj scanned]
    exact fun _ member => nomatch member
  | cons unit rest =>
    rw [scanFraction] at scanned
    by_cases point : unit = 0x2E
    · rw [if_pos point] at scanned
      by_cases empty : (scanDigits rest).1 = []
      · rw [if_pos empty] at scanned
        exact nomatch scanned
      · rw [if_neg empty] at scanned
        rw [← Option.some.inj scanned, point]
        exact (unpaired_singleton (by decide)).append (scanDigits_unpaired rest)
    · rw [if_neg point] at scanned
      rw [← Option.some.inj scanned]
      exact fun _ member => nomatch member

theorem scanSign_unpaired (text : JsString) : Unpaired (scanSign text).1 := by
  cases text with
  | nil => exact fun _ member => nomatch member
  | cons unit rest =>
    rw [scanSign]
    by_cases sign : unit = 0x2B ∨ unit = 0x2D
    · rw [if_pos sign]
      refine unpaired_singleton ?_
      rcases sign with rfl | rfl <;> decide
    · rw [if_neg sign]
      exact fun _ member => nomatch member

theorem scanExponent_unpaired {text : JsString} {scan : JsString × JsString}
    (scanned : scanExponent text = some scan) : Unpaired scan.1 := by
  cases text with
  | nil =>
    rw [← Option.some.inj scanned]
    exact fun _ member => nomatch member
  | cons unit rest =>
    rw [scanExponent] at scanned
    by_cases exponent : unit = 0x45 ∨ unit = 0x65
    · rw [if_pos exponent] at scanned
      dsimp only at scanned
      by_cases empty : (scanDigits (scanSign rest).2).1 = []
      · rw [if_pos empty] at scanned
        exact nomatch scanned
      · rw [if_neg empty] at scanned
        rw [← Option.some.inj scanned]
        have letter : isSurrogate unit = false := by
          rcases exponent with rfl | rfl <;> decide
        exact ((unpaired_singleton letter).append (scanSign_unpaired rest)).append
          (scanDigits_unpaired _)
    · rw [if_neg exponent] at scanned
      rw [← Option.some.inj scanned]
      exact fun _ member => nomatch member

theorem scanUnsigned_unpaired {text : JsString} {scan : JsString × JsString}
    (scanned : scanUnsigned text = some scan) : Unpaired scan.1 := by
  rw [scanUnsigned] at scanned
  obtain ⟨integer, isInteger, scanned⟩ := Option.bind_eq_some_iff.mp scanned
  obtain ⟨fraction, isFraction, scanned⟩ := Option.bind_eq_some_iff.mp scanned
  obtain ⟨exponent, isExponent, same⟩ := Option.map_eq_some_iff.mp scanned
  rw [← same]
  exact ((scanInteger_unpaired isInteger).append (scanFraction_unpaired isFraction)).append
    (scanExponent_unpaired isExponent)

/-- A numeric literal has digits, signs, a point and an exponent letter only. -/
theorem scanNumber_unpaired {text : JsString} {scan : JsString × JsString}
    (scanned : scanNumber text = some scan) : Unpaired scan.1 := by
  cases text with
  | nil => exact nomatch scanned
  | cons unit rest =>
    rw [scanNumber] at scanned
    by_cases sign : unit = 0x2D
    · rw [if_pos sign] at scanned
      obtain ⟨literal, isUnsigned, same⟩ := Option.map_eq_some_iff.mp scanned
      rw [← same, sign]
      exact (unpaired_singleton (by decide)).append (scanUnsigned_unpaired isUnsigned)
    · rw [if_neg sign] at scanned
      exact scanUnsigned_unpaired scanned

theorem isWellFormed_of_isNumberLiteral {literal : JsString} (isLiteral : IsNumberLiteral literal) :
    isWellFormed literal = true :=
  (scanNumber_unpaired (isLiteral [] rfl)).wellFormed

theorem quoteUnit_unpaired (unit : UInt16) : Unpaired (quoteUnit unit) := by
  have hex : ∀ digit, isSurrogate (hexUnit (digit % 0x10)) = false := by
    have every : ∀ value : Fin 16, isSurrogate (hexUnit value.val) = false := by decide
    exact fun digit => every ⟨digit % 0x10, Nat.mod_lt _ (by decide)⟩
  have small := unit.toNat_lt
  have first : unit.toNat / 0x1000 = unit.toNat / 0x1000 % 0x10 := by omega
  unfold quoteUnit
  by_cases escaped : unit.toNat < 0x20 ∨ isSurrogate unit = true
  · rw [if_pos escaped, first]
    have digits : Unpaired [0x5C, 0x75, hexUnit (unit.toNat / 0x1000 % 0x10),
        hexUnit (unit.toNat / 0x100 % 0x10), hexUnit (unit.toNat / 0x10 % 0x10),
        hexUnit (unit.toNat % 0x10)] := by
      intro other member
      simp only [List.mem_cons, List.not_mem_nil, or_false] at member
      rcases member with rfl | rfl | rfl | rfl | rfl | rfl
      · decide
      · decide
      · exact hex _
      · exact hex _
      · exact hex _
      · exact hex _
    repeat' split
    all_goals first
      | exact digits
      | exact (unpaired_singleton (by decide)).append (unpaired_singleton (by decide))
  · rw [if_neg escaped]
    rw [not_or, Bool.not_eq_true] at escaped
    repeat' split
    all_goals first
      | exact unpaired_singleton escaped.2
      | exact (unpaired_singleton (by decide)).append (unpaired_singleton (by decide))

theorem quoteUnits_isWellFormed (text : JsString) : isWellFormed (quoteUnits text) = true := by
  induction text using quoteUnits.induct with
  | case1 => rfl
  | case2 unit =>
    rw [quoteUnits]
    exact (quoteUnit_unpaired unit).wellFormed
  | case3 unit next rest pair inductionHypothesis =>
    rw [quoteUnits, if_pos pair, isWellFormed, if_pos pair]
    exact inductionHypothesis
  | case4 unit next rest single inductionHypothesis =>
    rw [quoteUnits, if_neg single]
    exact isWellFormed_append (quoteUnit_unpaired unit).wellFormed inductionHypothesis

theorem quote_isWellFormed (text : JsString) : isWellFormed (quote text) = true := by
  rw [quote, isWellFormed_append]
  · rw [isWellFormed_cons (by decide)]
    exact quoteUnits_isWellFormed text
  · decide

end WellFormed

theorem printedField_isWellFormed {opening : UInt16} {key : JsString} {value : Json Number}
    {rest : JsString} (first : isSurrogate opening = false)
    (content : isWellFormed (stringify value) = true) (after : isWellFormed rest = true) :
    isWellFormed (opening :: quote key ++ 0x3A :: stringify value ++ rest) = true := by
  refine isWellFormed_append (isWellFormed_append ?_ ?_) after
  · rw [isWellFormed_cons first]
    exact quote_isWellFormed key
  · rw [isWellFormed_cons (by decide)]
    exact content

mutual

/-- A printed value has no lone surrogate: those of its strings are escaped. -/
theorem stringify_isWellFormed [LawfulJsNumber Number] :
    ∀ value : Json Number, isWellFormed (stringify value) = true
  | .null => by
    rw [stringify, jsString_null]
    decide
  | .bool true => by
    rw [stringify, jsString_true]
    decide
  | .bool false => by
    rw [stringify, jsString_false]
    decide
  | .number value => by
    rw [stringify]
    by_cases finite : JsNumber.isFinite value = true
    · rw [if_pos finite]
      exact isWellFormed_of_isNumberLiteral (LawfulJsNumber.isNumberLiteral_toText value finite)
    · rw [if_neg finite, jsString_null]
      decide
  | .string value => by
    rw [stringify]
    exact quote_isWellFormed value
  | .array [] => by
    rw [stringify]
    decide
  | .array (value :: rest) => by
    rw [stringify, List.cons_append, isWellFormed_cons (by decide)]
    exact isWellFormed_append (stringify_isWellFormed value) (stringifyElements_isWellFormed rest)
  | .object [] => by
    rw [stringify]
    decide
  | .object ((key, value) :: rest) => by
    rw [stringify]
    exact printedField_isWellFormed (by decide) (stringify_isWellFormed value)
      (stringifyFields_isWellFormed rest)

theorem stringifyElements_isWellFormed [LawfulJsNumber Number] :
    ∀ elements : List (Json Number), isWellFormed (stringifyElements elements) = true
  | [] => by
    rw [stringifyElements]
    decide
  | value :: rest => by
    rw [stringifyElements, List.cons_append, isWellFormed_cons (by decide)]
    exact isWellFormed_append (stringify_isWellFormed value) (stringifyElements_isWellFormed rest)

theorem stringifyFields_isWellFormed [LawfulJsNumber Number] :
    ∀ fields : List (JsString × Json Number), isWellFormed (stringifyFields fields) = true
  | [] => by
    rw [stringifyFields]
    decide
  | (key, value) :: rest => by
    rw [stringifyFields]
    exact printedField_isWellFormed (by decide) (stringify_isWellFormed value)
      (stringifyFields_isWellFormed rest)

end

/-- A value survives the trip through UTF-8 bytes. -/
theorem parse_utf8_stringify [LawfulJsNumber Number] {value : Json Number} (plain : value.Plain) :
    parse (utf8Decode (utf8Encode (stringify value))) = some value := by
  rw [utf8Decode_utf8Encode (stringify_isWellFormed value), parse_stringify plain]

end Json

/-! ### Whole numbers -/

/-- The decimal text of a whole number. -/
def decimal (value : Nat) : JsString := digits (Nat.log 10 value + 1) value

/-- Numbers that are whole and not negative, printed in full. -/
instance : JsNumber Nat where
  ofLiteral := digitsValue
  toText := decimal
  isFinite _ := true
  ofNat := id

theorem isDigit_digitUnit {digit : Nat} (small : digit < 10) :
    isDigit (digitUnit digit) = true := by
  have unit := toNat_digitUnit small
  simp only [isDigit, Bool.and_eq_true, decide_eq_true_eq]
  omega

theorem isDigit_of_mem_digits {width value : Nat} :
    ∀ unit ∈ digits width value, isDigit unit = true := by
  induction width generalizing value with
  | zero => exact fun _ member => nomatch member
  | succ width inductionHypothesis =>
    intro unit member
    rw [digits, List.mem_append, List.mem_singleton] at member
    rcases member with front | last
    · exact inductionHypothesis unit front
    · rw [last]
      exact isDigit_digitUnit (Nat.mod_lt value (by decide))

theorem scanDigits_append {literal rest : JsString}
    (isDigits : ∀ unit ∈ literal, isDigit unit = true)
    (ends : endsNumber rest = true) : scanDigits (literal ++ rest) = (literal, rest) := by
  rw [scanDigits, List.takeWhile_append_of_pos isDigits, List.dropWhile_append_of_pos isDigits]
  cases rest with
  | nil => rw [List.takeWhile_nil, List.dropWhile_nil, List.append_nil]
  | cons unit rest =>
    simp only [endsNumber, Bool.not_eq_true', Bool.or_eq_false_iff] at ends
    rw [List.takeWhile_cons, List.dropWhile_cons, ends.1.1.1, if_neg Bool.false_ne_true,
      if_neg Bool.false_ne_true, List.append_nil]

theorem scanFraction_of_endsNumber {rest : JsString} (ends : endsNumber rest = true) :
    scanFraction rest = some ([], rest) := by
  cases rest with
  | nil => rfl
  | cons unit rest =>
    simp only [endsNumber, Bool.not_eq_true', Bool.or_eq_false_iff, beq_eq_false_iff_ne] at ends
    exact if_neg ends.1.1.2

theorem scanExponent_of_endsNumber {rest : JsString} (ends : endsNumber rest = true) :
    scanExponent rest = some ([], rest) := by
  cases rest with
  | nil => rfl
  | cons unit rest =>
    simp only [endsNumber, Bool.not_eq_true', Bool.or_eq_false_iff, beq_eq_false_iff_ne] at ends
    exact if_neg (not_or.mpr ⟨ends.1.2, ends.2⟩)

/-- The first digit is zero only in the text of zero, which is that digit. -/
theorem scanInteger_decimal (value : Nat) {rest : JsString} (ends : endsNumber rest = true) :
    scanInteger (decimal value ++ rest) = some (decimal value, rest) := by
  by_cases zero : value = 0
  · rw [zero]
    rfl
  · obtain ⟨tail, head⟩ := digits_head (Nat.log 10 value) value
    have lower := Nat.pow_log_le_self 10 zero
    have upper := Nat.lt_pow_succ_log_self (show 1 < 10 by decide) value
    have leading : 0 < value / 10 ^ Nat.log 10 value := Nat.div_pos lower (Nat.pow_pos (by decide))
    have small : value / 10 ^ Nat.log 10 value < 10 := by
      rw [Nat.succ_eq_add_one, pow_succ] at upper
      exact Nat.div_lt_of_lt_mul upper
    rw [Nat.mod_eq_of_lt small] at head
    have unit := toNat_digitUnit small
    have nonzero : digitUnit (value / 10 ^ Nat.log 10 value) ≠ 0x30 := by
      intro same
      rw [same] at unit
      have : (0x30 : UInt16).toNat = 0x30 := rfl
      omega
    have scanned : scanDigits (decimal value ++ rest) = (decimal value, rest) :=
      scanDigits_append isDigit_of_mem_digits ends
    have isHead : decimal value = digitUnit (value / 10 ^ Nat.log 10 value) :: tail := head
    rw [isHead, List.cons_append] at scanned ⊢
    rw [scanInteger, if_neg nonzero, if_pos (isDigit_digitUnit small), scanned]

theorem isNumberLiteral_decimal (value : Nat) : IsNumberLiteral (decimal value) := by
  intro rest ends
  obtain ⟨tail, head⟩ := digits_head (Nat.log 10 value) value
  have small : value / 10 ^ Nat.log 10 value % 10 < 10 := Nat.mod_lt _ (by decide)
  have unsigned : scanUnsigned (decimal value ++ rest) = some (decimal value, rest) := by
    rw [scanUnsigned, scanInteger_decimal value ends, Option.bind_some,
      scanFraction_of_endsNumber ends, Option.bind_some, scanExponent_of_endsNumber ends,
      Option.map_some, List.append_nil, List.append_nil]
  have isHead : decimal value = digitUnit (value / 10 ^ Nat.log 10 value % 10) :: tail := head
  have unit := toNat_digitUnit small
  have notMinus : digitUnit (value / 10 ^ Nat.log 10 value % 10) ≠ 0x2D := by
    intro same
    rw [same] at unit
    have : (0x2D : UInt16).toNat = 0x2D := rfl
    omega
  rw [isHead, List.cons_append] at unsigned ⊢
  rw [scanNumber, if_neg notMinus, unsigned]

instance : LawfulJsNumber Nat where
  isNumberLiteral_toText value _ := isNumberLiteral_decimal value
  ofLiteral_toText value _ :=
    digitsValue_digits (Nat.lt_pow_succ_log_self (show 1 < 10 by decide) value)
  isFinite_ofNat _ := rfl
