/-
This file proves the round trips of hexadecimal text, as `Buffer` writes and
reads it.

Bytes are written with two lower-case digits each. Reading takes digits of either
case, and stops without an error at the first pair that is not two digits; a text
of digits that is not cut short is read and written again as itself in lower
case, so two such texts denote the same bytes exactly when they differ in case
only.
-/

import MessageManagement.Library.Json

namespace Hex

/-- `bytes.toString('hex')`. -/
def encode (bytes : Bytes) : JsString :=
  bytes.flatMap fun byte => [Json.hexUnit (byte.toNat / 16), Json.hexUnit (byte.toNat % 16)]

/-- `Buffer.from(text, 'hex')`. -/
def decode : JsString → Bytes
  | first :: second :: rest =>
    match Json.hexValue first, Json.hexValue second with
    | some high, some low => (high * 16 + low).toUInt8 :: decode rest
    | _, _ => []
  | _ => []

def lowerUnit (unit : UInt16) : UInt16 :=
  if 0x41 ≤ unit.toNat && unit.toNat ≤ 0x5A then unit + 0x20 else unit

/-- `text.toLowerCase()`, for text in ASCII. -/
def lowerCase (text : JsString) : JsString := text.map lowerUnit

/-- Digits of either case, two for each byte. -/
def IsText (text : JsString) : Prop :=
  2 ∣ text.length ∧ ∀ unit ∈ text, (Json.hexValue unit).isSome

/-! ### One digit -/

theorem hexValue_small {unit : UInt16} {value : Nat} (digit : Json.hexValue unit = some value) :
    value < 16 := by
  unfold Json.hexValue at digit
  split_ifs at digit with decimal lower upper
  · obtain rfl := Option.some.inj digit
    rw [isDigit, Bool.and_eq_true, decide_eq_true_eq, decide_eq_true_eq] at decimal
    omega
  · obtain rfl := Option.some.inj digit
    rw [Bool.and_eq_true, decide_eq_true_eq, decide_eq_true_eq] at lower
    omega
  · obtain rfl := Option.some.inj digit
    rw [Bool.and_eq_true, decide_eq_true_eq, decide_eq_true_eq] at upper
    omega

/-- A digit that was read is written in lower case. -/
theorem hexUnit_hexValue {unit : UInt16} {value : Nat} (digit : Json.hexValue unit = some value) :
    Json.hexUnit value = lowerUnit unit := by
  have bound := unit.toNat_lt
  unfold Json.hexValue at digit
  split_ifs at digit with decimal lower upper
  · obtain rfl := Option.some.inj digit
    rw [isDigit, Bool.and_eq_true, decide_eq_true_eq, decide_eq_true_eq] at decimal
    have small : ¬ (0x41 ≤ unit.toNat && unit.toNat ≤ 0x5A) = true := by
      rw [Bool.and_eq_true, decide_eq_true_eq, decide_eq_true_eq]
      omega
    rw [Json.hexUnit, if_pos (by omega), lowerUnit, if_neg small,
      show 0x30 + (unit.toNat - 0x30) = unit.toNat by omega]
    exact UInt16.ofNat_toNat
  · obtain rfl := Option.some.inj digit
    rw [Bool.and_eq_true, decide_eq_true_eq, decide_eq_true_eq] at lower
    have already : ¬ (0x41 ≤ unit.toNat && unit.toNat ≤ 0x5A) = true := by
      rw [Bool.and_eq_true, decide_eq_true_eq, decide_eq_true_eq]
      omega
    rw [Json.hexUnit, if_neg (by omega), lowerUnit, if_neg already,
      show 0x57 + (unit.toNat - 0x57) = unit.toNat by omega]
    exact UInt16.ofNat_toNat
  · obtain rfl := Option.some.inj digit
    rw [Bool.and_eq_true, decide_eq_true_eq, decide_eq_true_eq] at upper
    have capital : (0x41 ≤ unit.toNat && unit.toNat ≤ 0x5A) = true := by
      rw [Bool.and_eq_true, decide_eq_true_eq, decide_eq_true_eq]
      omega
    rw [Json.hexUnit, if_neg (by omega), lowerUnit, if_pos capital,
      show 0x57 + (unit.toNat - 0x37) = unit.toNat + 0x20 by omega]
    refine UInt16.toNat_inj.mp ?_
    rw [UInt16.toNat_add]
    exact UInt16.toNat_ofNat'

/-! ### Round trips -/

theorem length_encode (bytes : Bytes) : (encode bytes).length = 2 * bytes.length := by
  induction bytes with
  | nil => rfl
  | cons byte rest inductionHypothesis =>
    rw [encode] at inductionHypothesis ⊢
    rw [List.flatMap_cons, List.length_append, inductionHypothesis, List.length_cons,
      List.length_cons, List.length_cons, List.length_nil]
    omega

theorem decode_encode (bytes : Bytes) : decode (encode bytes) = bytes := by
  induction bytes with
  | nil => rfl
  | cons byte rest inductionHypothesis =>
    have bound := byte.toNat_lt
    rw [encode] at inductionHypothesis ⊢
    rw [List.flatMap_cons, List.cons_append, List.cons_append, List.nil_append, decode,
      Json.hexValue_hexUnit (by omega), Json.hexValue_hexUnit (by omega)]
    dsimp only
    rw [inductionHypothesis, show byte.toNat / 16 * 16 + byte.toNat % 16 = byte.toNat by omega]
    exact congrArg (· :: rest) UInt8.ofNat_toNat

theorem encode_injective : Function.Injective encode :=
  Function.LeftInverse.injective decode_encode

/-- A text of digits is read to its end. -/
theorem encode_decode {text : JsString} (isText : IsText text) :
    encode (decode text) = lowerCase text := by
  obtain ⟨even, digits⟩ := isText
  induction text using decode.induct with
  | case1 first second rest high low isHigh isLow inductionHypothesis =>
    rw [List.forall_mem_cons, List.forall_mem_cons] at digits
    obtain ⟨_, _, digits⟩ := digits
    have shorter : 2 ∣ rest.length := by
      rw [List.length_cons, List.length_cons] at even
      omega
    have smallHigh := hexValue_small isHigh
    have smallLow := hexValue_small isLow
    have small : high * 16 + low < UInt8.size := by
      rw [UInt8.size]
      omega
    have byte : ((high * 16 + low).toUInt8).toNat = high * 16 + low :=
      UInt8.toNat_ofNat_of_lt small
    have tail := inductionHypothesis shorter digits
    rw [encode] at tail ⊢
    rw [decode, isHigh, isLow]
    dsimp only
    rw [List.flatMap_cons, tail, byte, show (high * 16 + low) / 16 = high by omega,
      show (high * 16 + low) % 16 = low by omega, hexUnit_hexValue isHigh, hexUnit_hexValue isLow]
    rfl
  | case2 first second rest notBoth =>
    obtain ⟨isHigh, isLow, _⟩ := (List.forall_mem_cons.trans (and_congr_right fun _ =>
      List.forall_mem_cons)).mp digits
    obtain ⟨high, isHigh⟩ := Option.isSome_iff_exists.mp isHigh
    obtain ⟨low, isLow⟩ := Option.isSome_iff_exists.mp isLow
    exact absurd isLow (notBoth high low isHigh)
  | case3 text short =>
    cases text with
    | nil => rfl
    | cons first rest =>
      cases rest with
      | nil => exact absurd (Nat.le_of_dvd Nat.one_pos even) (by decide)
      | cons second rest => exact absurd rfl (short first second rest)

theorem isText_encode (bytes : Bytes) : IsText (encode bytes) := by
  refine ⟨length_encode bytes ▸ Nat.dvd_mul_right 2 bytes.length, fun unit member => ?_⟩
  obtain ⟨byte, _, member⟩ := List.mem_flatMap.mp member
  have bound := byte.toNat_lt
  rcases List.mem_pair.mp member with rfl | rfl
  · rw [Json.hexValue_hexUnit (by omega)]
    rfl
  · rw [Json.hexValue_hexUnit (by omega)]
    rfl

theorem lowerCase_encode (bytes : Bytes) : lowerCase (encode bytes) = encode bytes := by
  rw [← encode_decode (isText_encode bytes), decode_encode]

/-- A text of digits denotes these bytes when it differs in case only from how they are
written. -/
theorem decode_eq_iff {text : JsString} (isText : IsText text) (bytes : Bytes) :
    decode text = bytes ↔ lowerCase text = lowerCase (encode bytes) := by
  rw [← encode_decode isText, lowerCase_encode]
  exact encode_injective.eq_iff.symm

theorem length_decode {text : JsString} (isText : IsText text) :
    2 * (decode text).length = text.length := by
  rw [← length_encode, encode_decode isText, lowerCase, List.length_map]

end Hex
