/-
This file fixes the text of the JavaScript runtime: a string is a sequence of
UTF-16 code units, surrogates not necessarily paired, and `Buffer` turns it into
UTF-8 bytes and back.

Encoding replaces a lone surrogate, and decoding a maximal part of an ill-formed
sequence, by U+FFFD. The strings without lone surrogates are those that survive
the trip through bytes, and well-formed UTF-8 survives the trip through a string.
-/

import Mathlib

/-- A JavaScript string: its UTF-16 code units. -/
abbrev JsString := List UInt16

abbrev Bytes := List UInt8

/-! ### Code points -/

/-- The code units of one Unicode scalar value: one unit in the basic plane, a surrogate pair
above it. -/
def utf16Units (scalar : Nat) : JsString :=
  if scalar < 0x10000 then [scalar.toUInt16]
  else [(0xD800 + (scalar - 0x10000) / 0x400).toUInt16,
    (0xDC00 + (scalar - 0x10000) % 0x400).toUInt16]

/-- The JavaScript string a literal of the source denotes. -/
def jsString (literal : String) : JsString :=
  literal.toList.flatMap fun character => utf16Units character.toNat

def isHighSurrogate (unit : UInt16) : Bool := 0xD800 ≤ unit.toNat && unit.toNat < 0xDC00

def isLowSurrogate (unit : UInt16) : Bool := 0xDC00 ≤ unit.toNat && unit.toNat < 0xE000

def isSurrogate (unit : UInt16) : Bool := 0xD800 ≤ unit.toNat && unit.toNat < 0xE000

def REPLACEMENT_CHARACTER : Nat := 0xFFFD

/-- The scalar values of a string; a lone surrogate becomes U+FFFD. -/
def scalars : JsString → List Nat
  | [] => []
  | [unit] => [if isSurrogate unit then REPLACEMENT_CHARACTER else unit.toNat]
  | unit :: next :: rest =>
    if isHighSurrogate unit && isLowSurrogate next then
      (0x10000 + (unit.toNat - 0xD800) * 0x400 + (next.toNat - 0xDC00)) :: scalars rest
    else
      (if isSurrogate unit then REPLACEMENT_CHARACTER else unit.toNat) :: scalars (next :: rest)

/-- No surrogate stands alone. -/
def isWellFormed : JsString → Bool
  | [] => true
  | [unit] => !isSurrogate unit
  | unit :: next :: rest =>
    if isHighSurrogate unit && isLowSurrogate next then isWellFormed rest
    else !isSurrogate unit && isWellFormed (next :: rest)

theorem isWellFormed_cons {unit : UInt16} {rest : JsString} (single : isSurrogate unit = false) :
    isWellFormed (unit :: rest) = isWellFormed rest := by
  have low : isHighSurrogate unit = false := by
    simp only [isSurrogate, isHighSurrogate, Bool.and_eq_false_iff, decide_eq_false_iff_not] at *
    omega
  cases rest with
  | nil => simp only [isWellFormed, single, Bool.not_false]
  | cons next rest =>
    simp only [isWellFormed, low, single, Bool.false_and, Bool.false_eq_true, if_false,
      Bool.not_false, Bool.true_and]

theorem isWellFormed_append {first second : JsString} (wellFormed : isWellFormed first = true)
    (rest : isWellFormed second = true) : isWellFormed (first ++ second) = true := by
  induction first using isWellFormed.induct with
  | case1 => exact rest
  | case2 unit =>
    rw [isWellFormed, Bool.not_eq_true'] at wellFormed
    rw [List.singleton_append, isWellFormed_cons wellFormed, rest]
  | case3 unit next tail pair inductionHypothesis =>
    rw [isWellFormed, if_pos pair] at wellFormed
    rw [List.cons_append, List.cons_append, isWellFormed, if_pos pair]
    exact inductionHypothesis wellFormed
  | case4 unit next tail single inductionHypothesis =>
    rw [isWellFormed, if_neg single, Bool.and_eq_true, Bool.not_eq_true'] at wellFormed
    rw [List.cons_append, isWellFormed_cons wellFormed.1]
    exact inductionHypothesis wellFormed.2

/-- The units of the scalar values of a well-formed string are the string. -/
theorem flatMap_utf16Units_scalars {text : JsString} (wellFormed : isWellFormed text = true) :
    (scalars text).flatMap utf16Units = text := by
  induction text using isWellFormed.induct with
  | case1 => rfl
  | case2 unit =>
    rw [isWellFormed, Bool.not_eq_true'] at wellFormed
    have small := unit.toNat_lt
    simp only [scalars, wellFormed, Bool.false_eq_true, if_false, List.flatMap_cons,
      List.flatMap_nil, List.append_nil, utf16Units]
    rw [if_pos small]
    simp
  | case3 unit next tail pair inductionHypothesis =>
    rw [isWellFormed, if_pos pair] at wellFormed
    rw [scalars, if_pos pair, List.flatMap_cons, inductionHypothesis wellFormed]
    simp only [isHighSurrogate, isLowSurrogate, Bool.and_eq_true, decide_eq_true_eq] at pair
    rw [utf16Units, if_neg (by omega)]
    have high : (0xD800 + (0x10000 + (unit.toNat - 0xD800) * 0x400 + (next.toNat - 0xDC00) -
        0x10000) / 0x400).toUInt16 = unit := by
      rw [show 0xD800 + (0x10000 + (unit.toNat - 0xD800) * 0x400 + (next.toNat - 0xDC00) -
        0x10000) / 0x400 = unit.toNat by omega]
      exact UInt16.ofNat_toNat
    have low : (0xDC00 + (0x10000 + (unit.toNat - 0xD800) * 0x400 + (next.toNat - 0xDC00) -
        0x10000) % 0x400).toUInt16 = next := by
      rw [show 0xDC00 + (0x10000 + (unit.toNat - 0xD800) * 0x400 + (next.toNat - 0xDC00) -
        0x10000) % 0x400 = next.toNat by omega]
      exact UInt16.ofNat_toNat
    rw [high, low]
    rfl
  | case4 unit next tail single inductionHypothesis =>
    rw [isWellFormed, if_neg single, Bool.and_eq_true, Bool.not_eq_true'] at wellFormed
    have small := unit.toNat_lt
    rw [scalars, if_neg single, List.flatMap_cons, inductionHypothesis wellFormed.2,
      wellFormed.1, if_neg Bool.false_ne_true, utf16Units, if_pos small]
    simp

/-- A Unicode scalar value. -/
def IsScalar (scalar : Nat) : Prop := scalar < 0xD800 ∨ 0xE000 ≤ scalar ∧ scalar < 0x110000

theorem isScalar_scalars (text : JsString) : ∀ scalar ∈ scalars text, IsScalar scalar := by
  have replaced : ∀ unit : UInt16,
      IsScalar (if isSurrogate unit then REPLACEMENT_CHARACTER else unit.toNat) := by
    intro unit
    have small := unit.toNat_lt
    split
    · unfold IsScalar REPLACEMENT_CHARACTER
      omega
    · rename_i single
      simp only [isSurrogate, Bool.and_eq_true, decide_eq_true_eq, not_and, not_lt] at single
      unfold IsScalar
      omega
  induction text using scalars.induct with
  | case1 => exact fun _ member => absurd member List.not_mem_nil
  | case2 unit =>
    intro scalar member
    rw [scalars, List.mem_singleton] at member
    exact member ▸ replaced unit
  | case3 unit next tail pair inductionHypothesis =>
    intro scalar member
    rw [scalars, if_pos pair] at member
    rcases List.mem_cons.mp member with same | member
    · simp only [isHighSurrogate, isLowSurrogate, Bool.and_eq_true, decide_eq_true_eq] at pair
      unfold IsScalar
      omega
    · exact inductionHypothesis scalar member
  | case4 unit next tail single inductionHypothesis =>
    intro scalar member
    rw [scalars, if_neg single] at member
    rcases List.mem_cons.mp member with rfl | member
    · exact replaced unit
    · exact inductionHypothesis scalar member

/-! ### UTF-8 -/

/-- The UTF-8 bytes of a scalar value. -/
def utf8Bytes (scalar : Nat) : Bytes :=
  if scalar < 0x80 then [scalar.toUInt8]
  else if scalar < 0x800 then [(0xC0 + scalar / 0x40).toUInt8, (0x80 + scalar % 0x40).toUInt8]
  else if scalar < 0x10000 then
    [(0xE0 + scalar / 0x1000).toUInt8, (0x80 + scalar / 0x40 % 0x40).toUInt8,
      (0x80 + scalar % 0x40).toUInt8]
  else
    [(0xF0 + scalar / 0x40000).toUInt8, (0x80 + scalar / 0x1000 % 0x40).toUInt8,
      (0x80 + scalar / 0x40 % 0x40).toUInt8, (0x80 + scalar % 0x40).toUInt8]

/-- `Buffer.from(text, 'utf8')`. -/
def utf8Encode (text : JsString) : Bytes := (scalars text).flatMap utf8Bytes

/-- A started sequence: the scalar value so far, how many bytes it still needs, and the bounds
of the next one. -/
structure Utf8Pending where
  scalar : Nat
  needed : Nat
  lower : Nat
  upper : Nat

/-- What a byte means where no sequence is started. -/
def utf8Start (byte : Nat) : List Nat × Option Utf8Pending :=
  if byte < 0x80 then ([byte], none)
  else if 0xC2 ≤ byte && byte < 0xE0 then ([], some ⟨byte - 0xC0, 1, 0x80, 0xBF⟩)
  else if 0xE0 ≤ byte && byte < 0xF0 then
    ([], some ⟨byte - 0xE0, 2, if byte = 0xE0 then 0xA0 else 0x80,
      if byte = 0xED then 0x9F else 0xBF⟩)
  else if 0xF0 ≤ byte && byte < 0xF5 then
    ([], some ⟨byte - 0xF0, 3, if byte = 0xF0 then 0x90 else 0x80,
      if byte = 0xF4 then 0x8F else 0xBF⟩)
  else ([REPLACEMENT_CHARACTER], none)

/-- One byte of the decoder. A byte that cannot continue the started sequence replaces it and is
read again as the start of another. -/
def utf8Step (pending : Option Utf8Pending) (byte : Nat) : List Nat × Option Utf8Pending :=
  match pending with
  | none => utf8Start byte
  | some started =>
    if started.lower ≤ byte && byte ≤ started.upper then
      let scalar := started.scalar * 0x40 + (byte - 0x80)
      if started.needed ≤ 1 then ([scalar], none)
      else ([], some ⟨scalar, started.needed - 1, 0x80, 0xBF⟩)
    else (REPLACEMENT_CHARACTER :: (utf8Start byte).1, (utf8Start byte).2)

def utf8Scalars : Option Utf8Pending → Bytes → List Nat
  | none, [] => []
  | some _, [] => [REPLACEMENT_CHARACTER]
  | pending, byte :: rest =>
    (utf8Step pending byte.toNat).1 ++ utf8Scalars (utf8Step pending byte.toNat).2 rest

/-- `buffer.toString('utf8')`. -/
def utf8Decode (bytes : Bytes) : JsString := (utf8Scalars none bytes).flatMap utf16Units

theorem utf8Scalars_cons (pending : Option Utf8Pending) (byte : UInt8) (rest : Bytes) :
    utf8Scalars pending (byte :: rest) = (utf8Step pending byte.toNat).1 ++
      utf8Scalars (utf8Step pending byte.toNat).2 rest := by
  cases pending with
  | none => rfl
  | some started => rfl

theorem toNat_toUInt8 {number : Nat} (small : number < 0x100) :
    number.toUInt8.toNat = number := by
  show number % 256 = number
  omega

theorem utf8Start_two {lead : Nat} (lower : 2 ≤ lead) (upper : lead < 0x20) :
    utf8Start (0xC0 + lead) = ([], some ⟨lead, 1, 0x80, 0xBF⟩) := by
  simp only [utf8Start]
  rw [if_neg (by omega), if_pos (by simp only [Bool.and_eq_true, decide_eq_true_eq]; omega),
    Nat.add_sub_cancel_left]

theorem utf8Start_three {lead : Nat} (upper : lead < 0x10) :
    utf8Start (0xE0 + lead) = ([], some ⟨lead, 2, if lead = 0 then 0xA0 else 0x80,
      if lead = 0xD then 0x9F else 0xBF⟩) := by
  simp only [utf8Start]
  rw [if_neg (by omega), if_neg (by simp only [Bool.and_eq_true, decide_eq_true_eq]; omega),
    if_pos (by simp only [Bool.and_eq_true, decide_eq_true_eq]; omega), Nat.add_sub_cancel_left]
  simp only [show (0xE0 + lead = 0xE0) = (lead = 0) from propext (by omega),
    show (0xE0 + lead = 0xED) = (lead = 0xD) from propext (by omega)]

theorem utf8Start_four {lead : Nat} (upper : lead < 5) :
    utf8Start (0xF0 + lead) = ([], some ⟨lead, 3, if lead = 0 then 0x90 else 0x80,
      if lead = 4 then 0x8F else 0xBF⟩) := by
  simp only [utf8Start]
  rw [if_neg (by omega), if_neg (by simp only [Bool.and_eq_true, decide_eq_true_eq]; omega),
    if_neg (by simp only [Bool.and_eq_true, decide_eq_true_eq]; omega),
    if_pos (by simp only [Bool.and_eq_true, decide_eq_true_eq]; omega), Nat.add_sub_cancel_left]
  simp only [show (0xF0 + lead = 0xF0) = (lead = 0) from propext (by omega),
    show (0xF0 + lead = 0xF4) = (lead = 4) from propext (by omega)]

/-- A continuation byte within the bounds extends the started sequence. -/
theorem utf8Scalars_continue {started : Utf8Pending} {payload : Nat} (small : payload < 0x40)
    (lower : started.lower ≤ 0x80 + payload) (upper : 0x80 + payload ≤ started.upper)
    (more : 1 < started.needed) (rest : Bytes) :
    utf8Scalars (some started) ((0x80 + payload).toUInt8 :: rest) =
      utf8Scalars (some ⟨started.scalar * 0x40 + payload, started.needed - 1, 0x80, 0xBF⟩) rest := by
  rw [utf8Scalars_cons, toNat_toUInt8 (by omega)]
  simp only [utf8Step]
  rw [if_pos (by simp only [Bool.and_eq_true, decide_eq_true_eq]; omega), if_neg (by omega),
    Nat.add_sub_cancel_left, List.nil_append]

/-- The last continuation byte completes it. -/
theorem utf8Scalars_last {started : Utf8Pending} {payload : Nat} (small : payload < 0x40)
    (lower : started.lower ≤ 0x80 + payload) (upper : 0x80 + payload ≤ started.upper)
    (last : started.needed = 1) (rest : Bytes) :
    utf8Scalars (some started) ((0x80 + payload).toUInt8 :: rest) =
      (started.scalar * 0x40 + payload) :: utf8Scalars none rest := by
  rw [utf8Scalars_cons, toNat_toUInt8 (by omega)]
  simp only [utf8Step]
  rw [if_pos (by simp only [Bool.and_eq_true, decide_eq_true_eq]; omega), if_pos (by omega),
    Nat.add_sub_cancel_left, List.singleton_append]

/-- The bytes of a scalar value decode to it, whatever follows. -/
theorem utf8Scalars_utf8Bytes {scalar : Nat} (valid : IsScalar scalar) (rest : Bytes) :
    utf8Scalars none (utf8Bytes scalar ++ rest) = scalar :: utf8Scalars none rest := by
  unfold IsScalar at valid
  unfold utf8Bytes
  split
  · rename_i ascii
    rw [List.singleton_append, utf8Scalars_cons, toNat_toUInt8 (by omega)]
    simp [utf8Step, utf8Start, ascii]
  split
  · rename_i wide narrow
    rw [List.cons_append, List.singleton_append, utf8Scalars_cons, toNat_toUInt8 (by omega),
      utf8Step, utf8Start_two (by omega) (by omega), List.nil_append,
      utf8Scalars_last (by omega) (by dsimp only; omega) (by dsimp only; omega) rfl]
    congr 1
    dsimp only
    omega
  split
  · rename_i wide narrow
    rw [List.cons_append, List.cons_append, List.singleton_append, utf8Scalars_cons,
      toNat_toUInt8 (by omega), utf8Step, utf8Start_three (by omega), List.nil_append,
      utf8Scalars_continue (by omega) (by dsimp only; split <;> omega)
        (by dsimp only; split <;> omega) (by dsimp only; omega),
      utf8Scalars_last (by omega) (by dsimp only; omega) (by dsimp only; omega) rfl]
    congr 1
    dsimp only
    omega
  · rename_i wide
    rw [List.cons_append, List.cons_append, List.cons_append, List.singleton_append,
      utf8Scalars_cons, toNat_toUInt8 (by omega), utf8Step, utf8Start_four (by omega),
      List.nil_append,
      utf8Scalars_continue (by omega) (by dsimp only; split <;> omega)
        (by dsimp only; split <;> omega) (by dsimp only; omega),
      utf8Scalars_continue (by omega) (by dsimp only; omega) (by dsimp only; omega)
        (by dsimp only; omega),
      utf8Scalars_last (by omega) (by dsimp only; omega) (by dsimp only; omega) rfl]
    congr 1
    dsimp only
    omega

theorem utf8Scalars_flatMap {values : List Nat} (valid : ∀ scalar ∈ values, IsScalar scalar) :
    utf8Scalars none (values.flatMap utf8Bytes) = values := by
  induction values with
  | nil => rfl
  | cons scalar rest inductionHypothesis =>
    rw [List.flatMap_cons, utf8Scalars_utf8Bytes (valid scalar List.mem_cons_self),
      inductionHypothesis fun other member => valid other (List.mem_cons_of_mem _ member)]

/-- A string without lone surrogates survives the trip through its bytes. -/
theorem utf8Decode_utf8Encode {text : JsString} (wellFormed : isWellFormed text = true) :
    utf8Decode (utf8Encode text) = text := by
  rw [utf8Decode, utf8Encode, utf8Scalars_flatMap (isScalar_scalars text),
    flatMap_utf16Units_scalars wellFormed]

/-! ### Well-formed UTF-8 -/

theorem scalars_cons {unit : UInt16} (rest : JsString) (single : isSurrogate unit = false) :
    scalars (unit :: rest) = unit.toNat :: scalars rest := by
  have low : isHighSurrogate unit = false := by
    simp only [isSurrogate, isHighSurrogate, Bool.and_eq_false_iff, decide_eq_false_iff_not] at *
    omega
  cases rest with
  | nil =>
    show [if isSurrogate unit then REPLACEMENT_CHARACTER else unit.toNat] = [unit.toNat]
    rw [single, if_neg Bool.false_ne_true]
  | cons next rest =>
    rw [scalars, low, single, Bool.false_and, if_neg Bool.false_ne_true,
      if_neg Bool.false_ne_true]

theorem toNat_toUInt16 {number : Nat} (small : number < 0x10000) :
    number.toUInt16.toNat = number := by
  show number % 65536 = number
  omega

/-- The units of a scalar value are read back, whatever follows. -/
theorem scalars_utf16Units {scalar : Nat} (valid : IsScalar scalar) (rest : JsString) :
    scalars (utf16Units scalar ++ rest) = scalar :: scalars rest := by
  unfold IsScalar at valid
  unfold utf16Units
  split
  · rename_i small
    have single : isSurrogate scalar.toUInt16 = false := by
      rw [isSurrogate, toNat_toUInt16 small, Bool.and_eq_false_iff, decide_eq_false_iff_not,
        decide_eq_false_iff_not]
      omega
    rw [List.singleton_append, scalars_cons rest single, toNat_toUInt16 small]
  · rename_i wide
    have high : (0xD800 + (scalar - 0x10000) / 0x400).toUInt16.toNat =
        0xD800 + (scalar - 0x10000) / 0x400 := toNat_toUInt16 (by omega)
    have low : (0xDC00 + (scalar - 0x10000) % 0x400).toUInt16.toNat =
        0xDC00 + (scalar - 0x10000) % 0x400 := toNat_toUInt16 (by omega)
    have pair : (isHighSurrogate (0xD800 + (scalar - 0x10000) / 0x400).toUInt16 &&
        isLowSurrogate (0xDC00 + (scalar - 0x10000) % 0x400).toUInt16) = true := by
      simp only [isHighSurrogate, isLowSurrogate, high, low, Bool.and_eq_true, decide_eq_true_eq]
      omega
    have value : 0x10000 + (0xD800 + (scalar - 0x10000) / 0x400 - 0xD800) * 0x400 +
        (0xDC00 + (scalar - 0x10000) % 0x400 - 0xDC00) = scalar := by omega
    rw [List.cons_append, List.singleton_append, scalars, if_pos pair, high, low, value]

theorem scalars_flatMap_utf16Units {values : List Nat}
    (valid : ∀ scalar ∈ values, IsScalar scalar) :
    scalars (values.flatMap utf16Units) = values := by
  induction values with
  | nil => rfl
  | cons scalar rest inductionHypothesis =>
    rw [List.flatMap_cons, scalars_utf16Units (valid scalar List.mem_cons_self),
      inductionHypothesis fun other member => valid other (List.mem_cons_of_mem _ member)]

/-- The bytes are the UTF-8 form of a sequence of Unicode scalar values. -/
def IsUtf8 (bytes : Bytes) : Prop :=
  ∃ values : List Nat, (∀ scalar ∈ values, IsScalar scalar) ∧ bytes = values.flatMap utf8Bytes

theorem isUtf8_utf8Encode (text : JsString) : IsUtf8 (utf8Encode text) :=
  ⟨scalars text, isScalar_scalars text, rfl⟩

/-- Bytes survive the trip through a string exactly if they are well-formed UTF-8. -/
theorem utf8Encode_utf8Decode_iff {bytes : Bytes} :
    utf8Encode (utf8Decode bytes) = bytes ↔ IsUtf8 bytes := by
  constructor
  · intro same
    rw [← same]
    exact isUtf8_utf8Encode _
  · rintro ⟨values, valid, rfl⟩
    rw [utf8Encode, utf8Decode, utf8Scalars_flatMap valid, scalars_flatMap_utf16Units valid]

/-! ### Replacing lone surrogates -/

/-- What a text is after a trip through its UTF-8 bytes: U+FFFD for each lone surrogate. -/
def toWellFormed (text : JsString) : JsString := utf8Decode (utf8Encode text)

theorem isWellFormed_utf16Units {scalar : Nat} (valid : IsScalar scalar) (rest : JsString) :
    isWellFormed (utf16Units scalar ++ rest) = isWellFormed rest := by
  unfold IsScalar at valid
  unfold utf16Units
  split
  · rename_i small
    have single : isSurrogate scalar.toUInt16 = false := by
      rw [isSurrogate, toNat_toUInt16 small, Bool.and_eq_false_iff, decide_eq_false_iff_not,
        decide_eq_false_iff_not]
      omega
    rw [List.singleton_append, isWellFormed_cons single]
  · rename_i wide
    have high : (0xD800 + (scalar - 0x10000) / 0x400).toUInt16.toNat =
        0xD800 + (scalar - 0x10000) / 0x400 := toNat_toUInt16 (by omega)
    have low : (0xDC00 + (scalar - 0x10000) % 0x400).toUInt16.toNat =
        0xDC00 + (scalar - 0x10000) % 0x400 := toNat_toUInt16 (by omega)
    have pair : (isHighSurrogate (0xD800 + (scalar - 0x10000) / 0x400).toUInt16 &&
        isLowSurrogate (0xDC00 + (scalar - 0x10000) % 0x400).toUInt16) = true := by
      simp only [isHighSurrogate, isLowSurrogate, high, low, Bool.and_eq_true, decide_eq_true_eq]
      omega
    rw [List.cons_append, List.singleton_append, isWellFormed, if_pos pair]

theorem isWellFormed_flatMap_utf16Units {values : List Nat}
    (valid : ∀ scalar ∈ values, IsScalar scalar) :
    isWellFormed (values.flatMap utf16Units) = true := by
  induction values with
  | nil => rfl
  | cons scalar rest inductionHypothesis =>
    rw [List.flatMap_cons, isWellFormed_utf16Units (valid scalar List.mem_cons_self)]
    exact inductionHypothesis fun other member => valid other (List.mem_cons_of_mem _ member)

theorem isWellFormed_toWellFormed (text : JsString) : isWellFormed (toWellFormed text) = true := by
  rw [toWellFormed, utf8Decode, utf8Encode, utf8Scalars_flatMap (isScalar_scalars text)]
  exact isWellFormed_flatMap_utf16Units (isScalar_scalars text)

/-- A text is kept exactly if it has no lone surrogate. -/
theorem toWellFormed_eq_self_iff {text : JsString} :
    toWellFormed text = text ↔ isWellFormed text = true := by
  constructor
  · intro same
    rw [← same]
    exact isWellFormed_toWellFormed text
  · exact utf8Decode_utf8Encode
