import Mathlib.Algebra.Ring.Int.Defs
import Mathlib.Algebra.Ring.Nat
import Mathlib.Data.List.Basic

/-!
# JSON values

A number is an integer or the text of any other finite number, so a value has
one representation and prints without arithmetic. `Json.text` is
`JSON.stringify` of a value.
-/

namespace Triangle.Std

/-- A JSON value. -/
inductive Json
  | null
  | bool (value : Bool)
  | int (value : Int)
  | float (text : String)
  | str (value : String)
  | arr (items : List Json)
  | obj (fields : List (String × Json))

namespace Json

/-- A lower-case hexadecimal digit. -/
def hexDigit (digit : Nat) : Char :=
  if digit < 10 then Char.ofNat (48 + digit) else Char.ofNat (87 + digit)

/-- How `JSON.stringify` writes one character of a string. -/
def escapeChar (c : Char) : List Char :=
  if c = '"' then ['\\', '"']
  else if c = '\\' then ['\\', '\\']
  else if c.toNat = 8 then ['\\', 'b']
  else if c.toNat = 9 then ['\\', 't']
  else if c.toNat = 10 then ['\\', 'n']
  else if c.toNat = 12 then ['\\', 'f']
  else if c.toNat = 13 then ['\\', 'r']
  else if c.toNat < 32 then
    ['\\', 'u', '0', '0', hexDigit (c.toNat / 16), hexDigit (c.toNat % 16)]
  else [c]

/-- A quoted JSON string. -/
def quote (value : String) : String :=
  String.ofList ('"' :: value.toList.flatMap escapeChar ++ ['"'])

mutual

/-- `JSON.stringify`. -/
def text : Json → String
  | .null => "null"
  | .bool value => if value then "true" else "false"
  | .int value => toString value
  | .float text => text
  | .str value => quote value
  | .arr items => "[" ++ textItems items ++ "]"
  | .obj fields => "\x7b" ++ textFields fields ++ "\x7d"

/-- Array items with commas between them. -/
def textItems : List Json → String
  | [] => ""
  | [item] => item.text
  | item :: next :: rest => item.text ++ "," ++ textItems (next :: rest)

/-- Object fields with commas between them. -/
def textFields : List (String × Json) → String
  | [] => ""
  | [field] => textField field
  | field :: next :: rest => textField field ++ "," ++ textFields (next :: rest)

/-- One `"key":value`. -/
def textField : String × Json → String
  | (key, value) => quote key ++ ":" ++ value.text

end

/-- `Buffer.byteLength(JSON.stringify(value), "utf8")`. -/
def byteLength (value : Json) : Nat :=
  value.text.utf8ByteSize

end Json

end Triangle.Std
