/-
This file defines the base64url encoding of `Buffer`: encoding without padding,
and decoding that accepts both alphabets, skips what is in neither, and stops at
the first padding character. Decoding looks at the low byte of a character only,
and it undoes encoding.
-/

import MessageManagement.Library.Text

/-! ### The alphabet -/

/-- The character of a six-bit number. -/
def base64urlUnit (sextet : Nat) : UInt16 :=
  if sextet < 26 then (0x41 + sextet).toUInt16
  else if sextet < 52 then (0x61 + (sextet - 26)).toUInt16
  else if sextet < 62 then (0x30 + (sextet - 52)).toUInt16
  else if sextet = 62 then 0x2D
  else 0x5F

/-- The number of a character of either base64 alphabet, read from its low byte. -/
def base64Sextet (unit : UInt16) : Option Nat :=
  let byte := unit.toNat % 256
  if 0x41 ≤ byte && byte < 0x5B then some (byte - 0x41)
  else if 0x61 ≤ byte && byte < 0x7B then some (byte - 0x61 + 26)
  else if 0x30 ≤ byte && byte < 0x3A then some (byte - 0x30 + 52)
  else if byte = 0x2B || byte = 0x2D then some 62
  else if byte = 0x2F || byte = 0x5F then some 63
  else none

/-- The character pads, by its low byte. -/
def isBase64Padding (unit : UInt16) : Bool := unit.toNat % 256 == 0x3D

theorem base64Sextet_base64urlUnit {sextet : Nat} (small : sextet < 64) :
    base64Sextet (base64urlUnit sextet) = some sextet := by
  have every : ∀ value : Fin 64, base64Sextet (base64urlUnit value.val) = some value.val := by
    decide
  exact every ⟨sextet, small⟩

theorem isBase64Padding_base64urlUnit {sextet : Nat} (small : sextet < 64) :
    isBase64Padding (base64urlUnit sextet) = false := by
  have every : ∀ value : Fin 64, isBase64Padding (base64urlUnit value.val) = false := by
    decide
  exact every ⟨sextet, small⟩

/-! ### Groups -/

/-- The six-bit numbers of a byte sequence; a short last group is filled with zero bits. -/
def sextets : Bytes → List Nat
  | [] => []
  | [first] => [first.toNat / 4, first.toNat % 4 * 16]
  | [first, second] =>
    [first.toNat / 4, first.toNat % 4 * 16 + second.toNat / 16, second.toNat % 16 * 4]
  | first :: second :: third :: rest =>
    first.toNat / 4 :: (first.toNat % 4 * 16 + second.toNat / 16) ::
      (second.toNat % 16 * 4 + third.toNat / 64) :: third.toNat % 64 :: sextets rest

/-- The bytes of six-bit numbers; the bits of an incomplete byte are dropped. -/
def octets : List Nat → Bytes
  | first :: second :: third :: fourth :: rest =>
    (first * 4 + second / 16).toUInt8 :: (second % 16 * 16 + third / 4).toUInt8 ::
      (third % 4 * 64 + fourth).toUInt8 :: octets rest
  | [first, second, third] =>
    [(first * 4 + second / 16).toUInt8, (second % 16 * 16 + third / 4).toUInt8]
  | [first, second] => [(first * 4 + second / 16).toUInt8]
  | _ => []

/-- `buffer.toString('base64url')`. -/
def base64urlEncode (bytes : Bytes) : JsString := (sextets bytes).map base64urlUnit

/-- `Buffer.from(text, 'base64url')`. -/
def base64urlDecode (text : JsString) : Bytes :=
  octets ((text.takeWhile fun unit => !isBase64Padding unit).filterMap base64Sextet)

/-! ### The round trip -/

theorem sextets_lt (bytes : Bytes) : ∀ sextet ∈ sextets bytes, sextet < 64 := by
  induction bytes using sextets.induct with
  | case1 => exact fun _ member => absurd member List.not_mem_nil
  | case2 first =>
    intro sextet member
    have := first.toNat_lt
    simp only [sextets, List.mem_cons, List.not_mem_nil, or_false] at member
    omega
  | case3 first second =>
    intro sextet member
    have := first.toNat_lt
    have := second.toNat_lt
    simp only [sextets, List.mem_cons, List.not_mem_nil, or_false] at member
    omega
  | case4 first second third rest inductionHypothesis =>
    intro sextet member
    have := first.toNat_lt
    have := second.toNat_lt
    have := third.toNat_lt
    simp only [sextets, List.mem_cons] at member
    rcases member with same | same | same | same | member
    · omega
    · omega
    · omega
    · omega
    · exact inductionHypothesis sextet member

theorem toUInt8_of_toNat {number : Nat} {byte : UInt8} (same : number = byte.toNat) :
    number.toUInt8 = byte := by
  rw [same]
  exact UInt8.ofNat_toNat

theorem first_octet (first : UInt8) {low : Nat} (small : low < 16) :
    (first.toNat / 4 * 4 + (first.toNat % 4 * 16 + low) / 16).toUInt8 = first :=
  toUInt8_of_toNat (by omega)

theorem second_octet (high : Nat) (second : UInt8) {low : Nat} (small : low < 4) :
    ((high * 16 + second.toNat / 16) % 16 * 16 + (second.toNat % 16 * 4 + low) / 4).toUInt8 =
      second := by
  have := second.toNat_lt
  exact toUInt8_of_toNat (by omega)

theorem third_octet (third : UInt8) {high : Nat} :
    ((high * 4 + third.toNat / 64) % 4 * 64 + third.toNat % 64).toUInt8 = third := by
  have := third.toNat_lt
  exact toUInt8_of_toNat (by omega)

theorem octets_sextets (bytes : Bytes) : octets (sextets bytes) = bytes := by
  induction bytes using sextets.induct with
  | case1 => rfl
  | case2 first =>
    have filled := first_octet first (show 0 < 16 by decide)
    rw [Nat.add_zero] at filled
    rw [sextets, octets, filled]
  | case3 first second =>
    have := second.toNat_lt
    have filled := second_octet (first.toNat % 4) second (show 0 < 4 by decide)
    rw [Nat.add_zero] at filled
    rw [sextets, octets, first_octet first (by omega), filled]
  | case4 first second third rest inductionHypothesis =>
    have := second.toNat_lt
    have := third.toNat_lt
    rw [sextets, octets, first_octet first (by omega), second_octet _ second (by omega),
      third_octet,
      inductionHypothesis]

theorem takeWhile_map_base64urlUnit {values : List Nat} (small : ∀ value ∈ values, value < 64) :
    ((values.map base64urlUnit).takeWhile fun unit => !isBase64Padding unit) =
      values.map base64urlUnit := by
  rw [List.takeWhile_eq_self_iff]
  intro unit member
  obtain ⟨value, valueMember, rfl⟩ := List.mem_map.mp member
  rw [isBase64Padding_base64urlUnit (small value valueMember), Bool.not_false]

theorem filterMap_base64Sextet {values : List Nat} (small : ∀ value ∈ values, value < 64) :
    (values.map base64urlUnit).filterMap base64Sextet = values := by
  rw [List.filterMap_map]
  calc values.filterMap (base64Sextet ∘ base64urlUnit)
      = values.filterMap some :=
        List.filterMap_congr fun value member => base64Sextet_base64urlUnit (small value member)
    _ = values := List.filterMap_some

theorem base64urlDecode_base64urlEncode (bytes : Bytes) :
    base64urlDecode (base64urlEncode bytes) = bytes := by
  have small := sextets_lt bytes
  rw [base64urlDecode, base64urlEncode, takeWhile_map_base64urlUnit small,
    filterMap_base64Sextet small, octets_sextets]
