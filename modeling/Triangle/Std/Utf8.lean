import Mathlib.Algebra.Ring.Int.Defs
import Mathlib.Algebra.Ring.Nat
import Mathlib.Data.List.Basic

/-!
# Text files as bytes

`encode` is `Buffer.from(text, "utf8")` and `decode` is
`buffer.toString("utf8")`: a decoder that writes U+FFFD for each ill-formed
sequence and reads the byte that broke it again. Text of ASCII characters has
one byte a character, so a file of such text can be cut at any byte and what is
left is still text.
-/

namespace Triangle.Std.Utf8

/-- `Buffer.from(text, "utf8")`. -/
def encode (text : String) : List UInt8 :=
  text.toList.flatMap String.utf8EncodeChar

/-- A multi-byte sequence that has been read in part: its bits so far, the
number of bytes to come and the range of the next one. -/
structure Pending where
  bits : Nat
  needed : Nat
  lower : Nat
  upper : Nat

/-- The character that stands for ill-formed bytes. -/
def replacement : Char :=
  Char.ofNat 0xFFFD

/-- The first byte of a sequence: the characters it completes and what it opens. -/
def readLead (byte : Nat) : List Char × Option Pending :=
  if byte < 0x80 then ([Char.ofNat byte], none)
  else if 0xC2 ≤ byte ∧ byte ≤ 0xDF then ([], some ⟨byte - 0xC0, 1, 0x80, 0xBF⟩)
  else if 0xE0 ≤ byte ∧ byte ≤ 0xEF then
    ([], some ⟨byte - 0xE0, 2, if byte = 0xE0 then 0xA0 else 0x80,
      if byte = 0xED then 0x9F else 0xBF⟩)
  else if 0xF0 ≤ byte ∧ byte ≤ 0xF4 then
    ([], some ⟨byte - 0xF0, 3, if byte = 0xF0 then 0x90 else 0x80,
      if byte = 0xF4 then 0x8F else 0xBF⟩)
  else ([replacement], none)

/-- A byte inside a sequence. -/
def readContinuation (pending : Pending) (byte : Nat) : List Char × Option Pending :=
  if pending.lower ≤ byte ∧ byte ≤ pending.upper then
    let bits := pending.bits * 64 + (byte - 0x80)
    if pending.needed = 1 then ([Char.ofNat bits], none)
    else ([], some ⟨bits, pending.needed - 1, 0x80, 0xBF⟩)
  else
    -- The byte does not belong to the open sequence and starts the next one.
    let (chars, next) := readLead byte
    (replacement :: chars, next)

/-- The characters of the bytes behind an open sequence. -/
def decodeFrom : Option Pending → List UInt8 → List Char
  | none, [] => []
  | some _, [] => [replacement]
  | none, byte :: rest =>
      let (chars, next) := readLead byte.toNat
      chars ++ decodeFrom next rest
  | some pending, byte :: rest =>
      let (chars, next) := readContinuation pending byte.toNat
      chars ++ decodeFrom next rest

/-- `buffer.toString("utf8")`. -/
def decode (bytes : List UInt8) : String :=
  String.ofList (decodeFrom none bytes)

theorem encode_append (first second : String) :
    encode (first ++ second) = encode first ++ encode second := by
  rw [encode, String.toList_append, List.flatMap_append]
  rfl

variable (text : String)

/-- `Buffer.byteLength(text, "utf8")`. -/
theorem length_encode : (encode text).length = text.utf8ByteSize := by
  have isText : text = String.ofList text.toList := String.ofList_toList.symm
  conv => rhs; rw [isText]
  rw [← String.size_toByteArray, String.toByteArray_ofList, List.utf8Encode]
  simp [encode]

variable (rest : List UInt8)

/-- A byte that continues the open sequence and is not its last one. -/
theorem decodeFrom_more {bits needed lower upper tail : Nat} (small : tail < 64)
    (inRange : lower ≤ tail + 0x80 ∧ tail + 0x80 ≤ upper) (notLast : needed ≠ 1) :
    decodeFrom (some ⟨bits, needed, lower, upper⟩) (UInt8.ofNat (tail + 0x80) :: rest) =
      decodeFrom (some ⟨bits * 64 + tail, needed - 1, 0x80, 0xBF⟩) rest := by
  have code : (UInt8.ofNat (tail + 0x80)).toNat = tail + 0x80 := by
    rw [UInt8.toNat_ofNat', Nat.mod_eq_of_lt (by omega)]
  rw [decodeFrom, readContinuation, code, if_pos inRange, Nat.add_sub_cancel]
  dsimp only
  rw [if_neg notLast, List.nil_append]

/-- The byte that completes the open sequence. -/
theorem decodeFrom_last {bits lower upper tail : Nat} (small : tail < 64)
    (inRange : lower ≤ tail + 0x80 ∧ tail + 0x80 ≤ upper) :
    decodeFrom (some ⟨bits, 1, lower, upper⟩) (UInt8.ofNat (tail + 0x80) :: rest) =
      Char.ofNat (bits * 64 + tail) :: decodeFrom none rest := by
  have code : (UInt8.ofNat (tail + 0x80)).toNat = tail + 0x80 := by
    rw [UInt8.toNat_ofNat', Nat.mod_eq_of_lt (by omega)]
  rw [decodeFrom, readContinuation, code, if_pos inRange, Nat.add_sub_cancel]
  rfl

/-- The first byte of a sequence. -/
theorem decodeFrom_lead {lead : Nat} (isByte : lead < 256) :
    decodeFrom none (UInt8.ofNat lead :: rest) =
      (readLead lead).1 ++ decodeFrom (readLead lead).2 rest := by
  have code : (UInt8.ofNat lead).toNat = lead := by
    rw [UInt8.toNat_ofNat', Nat.mod_eq_of_lt isByte]
  rw [decodeFrom, code]

/-- A character reads back from its bytes, whatever follows. -/
theorem decodeFrom_char (c : Char) (rest : List UInt8) :
    decodeFrom none (String.utf8EncodeChar c ++ rest) = c :: decodeFrom none rest := by
  have isScalar : c.val.toNat < 0xD800 ∨ 0xDFFF < c.val.toNat ∧ c.val.toNat < 0x110000 := c.valid
  have whole : Char.ofNat c.val.toNat = c := Char.ofNat_toNat c
  generalize isCode : c.val.toNat = code at isScalar whole
  unfold String.utf8EncodeChar
  rw [isCode]
  dsimp only
  split
  next oneByte =>
    rw [List.singleton_append, decodeFrom_lead rest (by omega), readLead, if_pos (by omega), whole]
    rfl
  split
  next notOne twoBytes =>
    have parts : code / 64 % 32 * 64 + code % 64 = code := by omega
    rw [List.cons_append, List.cons_append, List.nil_append, decodeFrom_lead _ (by omega), readLead,
      if_neg (by omega), if_pos (by omega)]
    dsimp only
    rw [decodeFrom_last rest (by omega) (by omega), Nat.add_sub_cancel, parts, whole]
    rfl
  split
  next notTwo threeBytes =>
    have parts : (code / 4096 % 16 * 64 + code / 64 % 64) * 64 + code % 64 = code := by omega
    rw [List.cons_append, List.cons_append, List.cons_append, List.nil_append,
      decodeFrom_lead _ (by omega), readLead, if_neg (by omega), if_neg (by omega),
      if_pos (by omega)]
    dsimp only
    rw [decodeFrom_more _ (by omega) (by split <;> split <;> omega) (by omega),
      decodeFrom_last rest (by omega) (by omega), Nat.add_sub_cancel, parts, whole]
    rfl
  next notThree =>
    have parts : ((code / 262144 % 8 * 64 + code / 4096 % 64) * 64 + code / 64 % 64) * 64 +
        code % 64 = code := by omega
    rw [List.cons_append, List.cons_append, List.cons_append, List.cons_append, List.nil_append,
      decodeFrom_lead _ (by omega), readLead, if_neg (by omega), if_neg (by omega),
      if_neg (by omega), if_pos (by omega)]
    dsimp only
    rw [decodeFrom_more _ (by omega) (by split <;> split <;> omega) (by omega),
      decodeFrom_more _ (by omega) (by omega) (by omega),
      decodeFrom_last rest (by omega) (by omega), Nat.add_sub_cancel, parts, whole]
    rfl

/-- `buffer.toString("utf8")` inverts `Buffer.from(text, "utf8")`. -/
theorem decode_encode : decode (encode text) = text := by
  rw [decode, encode]
  have reads : ∀ chars : List Char,
      decodeFrom none (chars.flatMap String.utf8EncodeChar) = chars := by
    intro chars
    induction chars with
    | nil => rfl
    | cons c others ih =>
        rw [List.flatMap_cons, decodeFrom_char, ih]
  rw [reads, String.ofList_toList]
end Triangle.Std.Utf8
