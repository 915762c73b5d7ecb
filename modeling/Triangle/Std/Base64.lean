import Mathlib.Algebra.Ring.Int.Defs
import Mathlib.Algebra.Ring.Nat
import Mathlib.Data.List.Basic
import Mathlib.Data.List.TakeWhile

/-!
# Bytes in the URL-safe base64 alphabet

`encode` is `buffer.toString("base64url")` and `decode` is
`Buffer.from(text, "base64url")`, which takes both alphabets, stops at padding
and passes over any other character. Three bytes are four digits of six bits.
-/

namespace Triangle.Std.Base64

/-- The character of six bits. -/
def digit (value : Nat) : Char :=
  if value < 26 then Char.ofNat (65 + value)
  else if value < 52 then Char.ofNat (71 + value)
  else if value < 62 then Char.ofNat (value - 4)
  else if value = 62 then '-'
  else '_'

/-- The six bits of a character of either alphabet. -/
def digitValue? (c : Char) : Option Nat :=
  if c.isUpper then some (c.toNat - 65)
  else if c.isLower then some (c.toNat - 71)
  else if c.isDigit then some (c.toNat + 4)
  else if c = '-' ∨ c = '+' then some 62
  else if c = '_' ∨ c = '/' then some 63
  else none

/-- The digits of some bytes. -/
def digits : List UInt8 → List Nat
  | [] => []
  | [a] => [a.toNat / 4, a.toNat % 4 * 16]
  | [a, b] => [a.toNat / 4, a.toNat % 4 * 16 + b.toNat / 16, b.toNat % 16 * 4]
  | a :: b :: c :: rest =>
      a.toNat / 4 :: (a.toNat % 4 * 16 + b.toNat / 16) :: (b.toNat % 16 * 4 + c.toNat / 64) ::
        c.toNat % 64 :: digits rest

/-- The bytes of some digits. What is left over makes no byte. -/
def bytes : List Nat → List UInt8
  | p :: q :: r :: s :: rest =>
      UInt8.ofNat (p * 4 + q / 16) :: UInt8.ofNat (q % 16 * 16 + r / 4) ::
        UInt8.ofNat (r % 4 * 64 + s) :: bytes rest
  | [p, q, r] => [UInt8.ofNat (p * 4 + q / 16), UInt8.ofNat (q % 16 * 16 + r / 4)]
  | [p, q] => [UInt8.ofNat (p * 4 + q / 16)]
  | _ => []

/-- `buffer.toString("base64url")`. -/
def encode (buffer : List UInt8) : String :=
  String.ofList ((digits buffer).map digit)

/-- `Buffer.from(text, "base64url")`. -/
def decode (text : String) : List UInt8 :=
  bytes ((text.toList.takeWhile (· ≠ '=')).filterMap digitValue?)

example : encode [0xfb, 0xff, 0x41, 0x42] = "-_9BQg" := by rfl

theorem digit_spec : ∀ value < 64,
    digitValue? (digit value) = some value ∧ digit value ≠ '=' ∧ digit value ≠ '.' := by
  decide

variable (buffer : List UInt8)

theorem digits_small : ∀ value ∈ digits buffer, value < 64 := by
  induction buffer using digits.induct with
  | case1 => nofun
  | case2 a =>
      have isByte := a.toNat_lt
      intro value member
      simp only [digits, List.mem_cons, List.not_mem_nil, or_false] at member
      omega
  | case3 a b =>
      have isByte := a.toNat_lt
      have isNext := b.toNat_lt
      intro value member
      simp only [digits, List.mem_cons, List.not_mem_nil, or_false] at member
      omega
  | case4 a b c rest ih =>
      have isByte := a.toNat_lt
      have isNext := b.toNat_lt
      have isLast := c.toNat_lt
      intro value member
      simp only [digits, List.mem_cons] at member
      rcases member with rfl | rfl | rfl | rfl | later
      · omega
      · omega
      · omega
      · omega
      · exact ih value later

/-- A byte from its parts. -/
theorem ofNat_eq (byte : UInt8) {value : Nat} (same : value = byte.toNat) :
    UInt8.ofNat value = byte := by
  rw [same, UInt8.ofNat_toNat]

theorem bytes_digits : bytes (digits buffer) = buffer := by
  induction buffer using digits.induct with
  | case1 => rfl
  | case2 a =>
      rw [digits, bytes, ofNat_eq a (by omega)]
  | case3 a b =>
      have isNext := b.toNat_lt
      rw [digits, bytes, ofNat_eq a (by omega), ofNat_eq b (by omega)]
  | case4 a b c rest ih =>
      have isNext := b.toNat_lt
      have isLast := c.toNat_lt
      rw [digits, bytes, ih, ofNat_eq a (by omega), ofNat_eq b (by omega),
        ofNat_eq c (by omega)]

theorem encode_chars {buffer : List UInt8} {c : Char} (member : c ∈ (encode buffer).toList) :
    c ≠ '=' ∧ c ≠ '.' := by
  rw [encode, String.toList_ofList] at member
  obtain ⟨value, isDigit, rfl⟩ := List.mem_map.mp member
  exact (digit_spec value (digits_small buffer value isDigit)).2

/-- `Buffer.from(text, "base64url")` inverts `buffer.toString("base64url")`. -/
theorem decode_encode : decode (encode buffer) = buffer := by
  have unpadded : (encode buffer).toList.takeWhile (· ≠ '=') = (encode buffer).toList :=
    List.takeWhile_eq_self_iff.mpr fun c member => decide_eq_true (encode_chars member).1
  have readsBack : ((digits buffer).map digit).filterMap digitValue? = digits buffer := by
    rw [List.filterMap_map]
    refine (List.filterMap_congr fun value member => ?_).trans List.filterMap_some
    exact (digit_spec value (digits_small buffer value member)).1
  rw [decode, unpadded, encode, String.toList_ofList, readsBack, bytes_digits]

end Triangle.Std.Base64
