import Mathlib.Algebra.Ring.Int.Defs
import Mathlib.Algebra.Ring.Nat
import Mathlib.Data.Nat.Digits.Defs

/-!
# Numbers on one line

A list of natural numbers as decimal digits, lowest first, each number ended by
a comma. What a program writes as a sequence of numbers reads back from it.
-/

namespace Triangle.Std.NumberLine

/-- The byte of a decimal digit. -/
def digitByte (digit : Nat) : UInt8 :=
  UInt8.ofNat (48 + digit)

/-- One number. -/
def encodeNumber (number : Nat) : List UInt8 :=
  (Nat.digits 10 number).map digitByte ++ [44]

/-- A list of numbers. -/
def encode (numbers : List Nat) : List UInt8 :=
  numbers.flatMap encodeNumber

/-- Read numbers back; `digits` are those of the current one, highest first. -/
def decodeFrom (digits : List Nat) : List UInt8 → List Nat
  | [] => []
  | byte :: rest =>
      if byte = 44 then Nat.ofDigits 10 digits.reverse :: decodeFrom [] rest
      else decodeFrom ((byte.toNat - 48) :: digits) rest

/-- Read a list of numbers back. -/
def decode (bytes : List UInt8) : List Nat :=
  decodeFrom [] bytes

theorem toNat_digitByte {digit : Nat} (isDigit : digit < 10) :
    (digitByte digit).toNat = 48 + digit := by
  simp only [digitByte, UInt8.toNat_ofNat']
  omega

theorem digitByte_ne {digit byte : Nat} (isDigit : digit < 10) (outside : byte < 48) :
    digitByte digit ≠ UInt8.ofNat byte := by
  intro same
  have sameNat := congrArg UInt8.toNat same
  rw [toNat_digitByte isDigit, UInt8.toNat_ofNat'] at sameNat
  omega

/-- The digits of a number are read up to its comma. -/
theorem decodeFrom_digits (digits before : List Nat) (rest : List UInt8)
    (areDigits : ∀ digit ∈ digits, digit < 10) :
    decodeFrom before (digits.map digitByte ++ 44 :: rest) =
      Nat.ofDigits 10 (before.reverse ++ digits) :: decodeFrom [] rest := by
  induction digits generalizing before with
  | nil => simp [decodeFrom]
  | cons digit others ih =>
      have isDigit : digit < 10 := areDigits digit (by simp)
      have notComma : digitByte digit ≠ 44 := @digitByte_ne digit 44 isDigit (by omega)
      rw [List.map_cons, List.cons_append, decodeFrom, if_neg notComma, toNat_digitByte isDigit,
        ih _ fun other member => areDigits other (List.mem_cons_of_mem _ member)]
      simp

theorem decode_encode (numbers : List Nat) : decode (encode numbers) = numbers := by
  induction numbers with
  | nil => rfl
  | cons number others ih =>
      have areDigits : ∀ digit ∈ Nat.digits 10 number, digit < 10 :=
        fun digit member => Nat.digits_lt_base (by omega) member
      unfold decode at ih ⊢
      rw [encode, List.flatMap_cons, encodeNumber, List.append_assoc, List.singleton_append,
        decodeFrom_digits _ _ _ areDigits, List.reverse_nil, List.nil_append, Nat.ofDigits_digits]
      exact congrArg _ ih

/-- Every byte is a digit or a comma. -/
theorem mem_encode {numbers : List Nat} {byte : UInt8} (member : byte ∈ encode numbers) :
    byte = 44 ∨ ∃ digit, digit < 10 ∧ byte = digitByte digit := by
  obtain ⟨number, -, inNumber⟩ := List.mem_flatMap.mp member
  rcases List.mem_append.mp inNumber with isDigit | isComma
  · obtain ⟨digit, isMember, rfl⟩ := List.mem_map.mp isDigit
    exact .inr ⟨digit, Nat.digits_lt_base (by omega) isMember, rfl⟩
  · exact .inl (List.mem_singleton.mp isComma)

end Triangle.Std.NumberLine
