import Triangle.Std.Json
import Triangle.Std.Utf8

/-!
# JSON as bytes

`serde_json` writes a string byte by byte: a byte of its escape table becomes an
escape, every other byte stays. `JSON.stringify` escapes characters, and its
text is encoded afterwards. Every byte of the table is an ASCII character and no
byte of a longer sequence is, so the two write the same bytes (`toVec_eq`).
-/

namespace Triangle.Std.SerdeJson

open Triangle.Std.Utf8

/-- `HEX_DIGITS[digit]`. -/
def hexDigit (digit : UInt8) : UInt8 :=
  if digit < 10 then 0x30 + digit else 0x57 + digit

/-- What the writer makes of one byte of a string, by the table `ESCAPE`. -/
def escapeByte (byte : UInt8) : List UInt8 :=
  if byte = 0x22 then [0x5C, 0x22]
  else if byte = 0x5C then [0x5C, 0x5C]
  else if byte = 0x08 then [0x5C, 0x62]
  else if byte = 0x09 then [0x5C, 0x74]
  else if byte = 0x0A then [0x5C, 0x6E]
  else if byte = 0x0C then [0x5C, 0x66]
  else if byte = 0x0D then [0x5C, 0x72]
  else if byte < 0x20 then [0x5C, 0x75, 0x30, 0x30, hexDigit (byte / 16), hexDigit (byte % 16)]
  else [byte]

/-- `format_escaped_str`. -/
def formatEscapedStr (value : String) : List UInt8 :=
  [0x22] ++ (encode value).flatMap escapeByte ++ [0x22]

mutual

/-- `to_vec`. -/
def toVec : Json → List UInt8
  | .null => encode "null"
  | .bool value => encode (if value then "true" else "false")
  | .int value => encode (toString value)
  | .float text => encode text
  | .str value => formatEscapedStr value
  | .arr items => [0x5B] ++ itemsVec true items ++ [0x5D]
  | .obj fields => [0x7B] ++ fieldsVec true fields ++ [0x7D]

/-- Array items; a comma stands before each but the first. -/
def itemsVec : Bool → List Json → List UInt8
  | _, [] => []
  | first, item :: rest => (if first then [] else [0x2C]) ++ toVec item ++ itemsVec false rest

/-- Object fields; a comma stands before each but the first. -/
def fieldsVec : Bool → List (String × Json) → List UInt8
  | _, [] => []
  | first, field :: rest => (if first then [] else [0x2C]) ++ fieldVec field ++ fieldsVec false rest

/-- One `"key":value`. -/
def fieldVec : String × Json → List UInt8
  | (key, value) => formatEscapedStr key ++ [0x3A] ++ toVec value

end

/-- An ASCII byte is escaped as its character is. -/
private theorem escapeByte_ascii : ∀ code < 128,
    (String.utf8EncodeChar (Char.ofNat code)).flatMap escapeByte =
      (Json.escapeChar (Char.ofNat code)).flatMap String.utf8EncodeChar := by decide +kernel

/-- A byte that is not ASCII stays. -/
theorem escapeByte_of_le {byte : UInt8} (notAscii : 0x80 ≤ byte.toNat) :
    escapeByte byte = [byte] := by
  have isNone : ∀ other : UInt8, other.toNat < 0x80 → byte ≠ other := by
    rintro other isAscii rfl
    omega
  have notControl : ¬ byte < 0x20 := by
    rw [UInt8.lt_iff_toNat_lt]
    change ¬ byte.toNat < 0x20
    omega
  unfold escapeByte
  rw [if_neg (isNone _ (by decide)), if_neg (isNone _ (by decide)), if_neg (isNone _ (by decide)),
    if_neg (isNone _ (by decide)), if_neg (isNone _ (by decide)), if_neg (isNone _ (by decide)),
    if_neg (isNone _ (by decide)), if_neg notControl]

/-- No byte of a longer sequence is ASCII. -/
theorem le_of_mem_utf8EncodeChar {c : Char} (notAscii : 0x80 ≤ c.toNat) {byte : UInt8}
    (member : byte ∈ String.utf8EncodeChar c) : 0x80 ≤ byte.toNat := by
  have inRange : ∀ code, 0x80 ≤ code → code < 256 → 0x80 ≤ (UInt8.ofNat code).toNat := by
    intro code isHigh isByte
    rw [UInt8.toNat_ofNat', Nat.mod_eq_of_lt isByte]
    exact isHigh
  have long : ¬ c.val.toNat ≤ 0x7f := Nat.not_le.mpr notAscii
  simp only [String.utf8EncodeChar, if_neg long] at member
  split at member
  · simp only [List.mem_cons, List.not_mem_nil, or_false] at member
    rcases member with rfl | rfl
    · exact inRange _ (by omega) (by omega)
    · exact inRange _ (by omega) (by omega)
  · split at member
    · simp only [List.mem_cons, List.not_mem_nil, or_false] at member
      rcases member with rfl | rfl | rfl
      · exact inRange _ (by omega) (by omega)
      · exact inRange _ (by omega) (by omega)
      · exact inRange _ (by omega) (by omega)
    · simp only [List.mem_cons, List.not_mem_nil, or_false] at member
      rcases member with rfl | rfl | rfl | rfl
      · exact inRange _ (by omega) (by omega)
      · exact inRange _ (by omega) (by omega)
      · exact inRange _ (by omega) (by omega)
      · exact inRange _ (by omega) (by omega)

/-- Bytes that are not ASCII stay. -/
theorem flatMap_escapeByte_of_le {bytes : List UInt8}
    (notAscii : ∀ byte ∈ bytes, 0x80 ≤ byte.toNat) : bytes.flatMap escapeByte = bytes := by
  induction bytes with
  | nil => rfl
  | cons byte rest ih =>
      rw [List.flatMap_cons, escapeByte_of_le (notAscii byte List.mem_cons_self),
        ih fun other member => notAscii other (List.mem_cons_of_mem _ member)]
      rfl

/-- The bytes of a character are escaped as the character is. -/
theorem escapeByte_char (c : Char) :
    (String.utf8EncodeChar c).flatMap escapeByte =
      (Json.escapeChar c).flatMap String.utf8EncodeChar := by
  by_cases isAscii : c.toNat < 128
  · have agrees := escapeByte_ascii c.toNat isAscii
    rwa [Char.ofNat_toNat] at agrees
  · have notAscii := Nat.not_lt.mp isAscii
    have stays : Json.escapeChar c = [c] := by
      have isNone : ∀ other : Char, other.toNat < 0x80 → c ≠ other := by
        rintro other ascii rfl
        omega
      unfold Json.escapeChar
      rw [if_neg (isNone _ (by decide)), if_neg (isNone _ (by decide)), if_neg (by omega),
        if_neg (by omega), if_neg (by omega), if_neg (by omega), if_neg (by omega),
        if_neg (by omega)]
    rw [flatMap_escapeByte_of_le fun byte member => le_of_mem_utf8EncodeChar notAscii member, stays,
      List.flatMap_singleton]

/-- A string is written alike. -/
theorem formatEscapedStr_eq (value : String) :
    formatEscapedStr value = encode (Json.quote value) := by
  have escaped : (encode value).flatMap escapeByte =
      (value.toList.flatMap Json.escapeChar).flatMap String.utf8EncodeChar := by
    rw [encode, List.flatMap_assoc, List.flatMap_assoc]
    exact congrArg (value.toList.flatMap ·) (funext escapeByte_char)
  rw [formatEscapedStr, escaped, Json.quote, encode, String.toList_ofList, List.flatMap_append,
    List.flatMap_cons]
  rfl

mutual

/-- A value is written alike. -/
theorem toVec_eq : (value : Json) → toVec value = encode value.text
  | .null | .bool _ | .int _ | .float _ => rfl
  | .str value => formatEscapedStr_eq value
  | .arr items => by
      rw [toVec, itemsVec_eq items, Json.text, encode_append, encode_append]
      rfl
  | .obj fields => by
      rw [toVec, fieldsVec_eq fields, Json.text, encode_append, encode_append]
      rfl

/-- Items are written alike. -/
theorem itemsVec_eq : (items : List Json) → itemsVec true items = encode (Json.textItems items)
  | [] => rfl
  | [item] => by
      rw [itemsVec, itemsVec, toVec_eq item, Json.textItems]
      simp
  | item :: next :: rest => by
      have others : itemsVec false (next :: rest) = [0x2C] ++ itemsVec true (next :: rest) := rfl
      rw [itemsVec, toVec_eq item, others, itemsVec_eq (next :: rest), Json.textItems,
        encode_append, encode_append, if_pos rfl, List.nil_append, List.append_assoc]
      rfl

/-- Fields are written alike. -/
theorem fieldsVec_eq : (fields : List (String × Json)) →
    fieldsVec true fields = encode (Json.textFields fields)
  | [] => rfl
  | [field] => by
      rw [fieldsVec, fieldsVec, fieldVec_eq field, Json.textFields]
      simp
  | field :: next :: rest => by
      have others : fieldsVec false (next :: rest) = [0x2C] ++ fieldsVec true (next :: rest) := rfl
      rw [fieldsVec, fieldVec_eq field, others, fieldsVec_eq (next :: rest), Json.textFields,
        encode_append, encode_append, if_pos rfl, List.nil_append, List.append_assoc]
      rfl

/-- A field is written alike. -/
theorem fieldVec_eq : (field : String × Json) → fieldVec field = encode (Json.textField field)
  | (key, value) => by
      rw [fieldVec, toVec_eq value, formatEscapedStr_eq, Json.textField, encode_append,
        encode_append]
      rfl

end

/-- So a value has as many bytes either way. -/
theorem length_toVec (value : Json) : (toVec value).length = value.byteLength := by
  rw [toVec_eq, length_encode, Json.byteLength]

end Triangle.Std.SerdeJson
