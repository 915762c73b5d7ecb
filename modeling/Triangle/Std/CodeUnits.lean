import Mathlib.Algebra.BigOperators.Group.List.Basic
import Triangle.Std.CanonicalJson

/-!
# Text as UTF-16 code units

A JavaScript string is a list of 16-bit units: `slice` and `length` count these, and
a cut can leave half of a character. `upTo` is the longest beginning of a text of at
most so many units that ends with a whole character.
-/

namespace Triangle.Std.CodeUnits

/-- The code units of a character. -/
def ofChar (c : Char) : List Nat :=
  if c.toNat < 0x10000 then [c.toNat]
  else [0xD800 + (c.toNat - 0x10000) / 0x400, 0xDC00 + (c.toNat - 0x10000) % 0x400]

/-- `(unit & 0xfc00) === 0xd800`. -/
def isHigh (unit : Nat) : Bool :=
  0xD800 ≤ unit && unit < 0xDC00

/-- The second half of a pair. -/
def isLow (unit : Nat) : Bool :=
  0xDC00 ≤ unit && unit < 0xE000

/-- The character of a pair. -/
def pairChar (high low : Nat) : Char :=
  Char.ofNat (0x10000 + (high - 0xD800) * 0x400 + (low - 0xDC00))

/-- The character of a single unit; half a pair is no character. -/
def unitChar (unit : Nat) : Char :=
  if isHigh unit || isLow unit then Char.ofNat 0xFFFD else Char.ofNat unit

/-- The characters of some units. -/
def chars : List Nat → List Char
  | high :: low :: rest =>
      if isHigh high && isLow low then pairChar high low :: chars rest
      else unitChar high :: chars (low :: rest)
  | [unit] => [unitChar unit]
  | [] => []

/-- `text.slice(0, length)`. -/
def slice (text : String) (length : Nat) : String :=
  String.ofList (chars ((Json.codeUnits text).take length))

/-- The characters of at most so many units, up to the first that has no room. -/
def upTo : Nat → List Char → List Char
  | _, [] => []
  | room, c :: rest =>
      if (ofChar c).length ≤ room then c :: upTo (room - (ofChar c).length) rest else []

variable (c : Char)

variable (text : List Char)

end Triangle.Std.CodeUnits
